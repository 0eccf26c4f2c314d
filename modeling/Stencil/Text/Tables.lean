import Stencil.Text.Packed

/-!
# Tables of characters

Packed rows of numbers, in parts with empty lines between them. In the first four parts each number is written as its
difference from the one above it. The first says which code points stand for one other one: the first and the last of a
run, and what the first stands for. The second lists those that stand for several, the third the pairs that are written
as one, and the fourth runs of marks with the class that decides their order. The others are rows of gaps and
lengths: runs of letters that change in upper, in lower and in title case, letters with a case, characters that are
passed over behind these, those that are not printable, and letters with several in upper and in title case.
-/

set_option autoImplicit false

namespace Stencil.Text.Tables

def packed : String := "
 ~[pc%xAlTD'>@c|tA9!2$#O#%y&1!EeHfZm:?Ui%GT:Hmg.h%S1C^wd:)+aO8;XZ;lT>>2A17.DjAQ'D=FG0WhaqGM&w#49-K`G<oGA9TeJ>,3Zc#T184+r
 LGP$xi<U)''cS6%$4#&=c;8wT@w`*7=wTd!</ub)3]aF;or?AQ!hW8fUTw]3*S2uZCAr<5S)bJ0P2635&jT8I98IHK[l)#o~%HJF'RBEiSpH6+DP.R/llCb
 v5BCEh7[i=?DQB@&/)~H>|Pj<CiwrdG0nzV7PMS|!iOA>hw4j!'T69Y:o1zPrT*%ymtrkyv`@?'A7LKjaw~S@x!>zn/RTy7kIL1KAE0)._$:?^|Ajx>tooZ
 ,yv'sAt5DEBy~='j9_jY`B|yl>/g(6|S3mMekYE~=QNTt!7lSKsYxjIpO!E1/~:tT:|YUKRxIUr1a-jfH6i!Ov&L.AdZhMD6h:z]QN_3Ob7fbTqKoYs)D+]
 |Eui0oy:.=~QmkAZ9f2ad+k?A$wS#)|7!Q|4zCH85w3z!`]I,46:2XkGc'AOV2wBFn2eP/&PrmeT74cpr+Fq`1+^8THS)D25w8iuO8%:ZG-Oyy=%ME1H7:V
 lby8v<y>xZT&j$H2Ju2Z-Qip=cNhwLygS|e=n8%fJ,`h?/Fcy,J[Dc;0I=<!1nmRnA8~P>G/d+]dXa-;6PcuV&3h]AfDs'LmPx[+!4.rKO>*>ziyYRwQ~$1
 ?]+Lpxe+(rq%Pmsn%,jB>UFc2mV~<IM%V1C$Db%DEFQLKm^QfyP0,XXPz7h70g:AA#Pvgf;wf7S9F-)HMsdM3TPKb!#r8)a:Syv3NUf~5_BL.s/1:c5@yW?
 ik->l6LNU^Fkmkk5]_(0FxG]-'B+4YjnIBgK-+%G3fZ%dRa0_~<xZJQ$!CUZ9G.Q=vRS8r*&+7?;CouT5-?LnG&,^GYr/)n=p,Qrc^Ky73#V,/0;,geDcMq
 WgNmz%4OfSYGHmW#j3qZKdZ&E2N4Fz[PjQ[a)=6E7h)n;,b4)1Y:u%.a~.tk;Cdh%IL`D,%yjE,9H3l=4~j?u52=56<wgieJ$|!^NsZTDK7z!.&pWQv+m[0
 q;]7_x2:'woxi$Xx&2oHkem36XBemB#`Lwo;+>7c2b++uoTS]!w;+B~~/VaU*SYbvhgiyNYF+*fH;`o0=Kv~Ip*!JvIG=Q/&_y@Fa<F.i7yC[t4jsoju#!5
 OVOt$$Sdb*&<6Ex>>^[bF)T)B,f]/C=V2;.e=ma6ksA&A;#MUaG%a>V4:|C1ItWw3UyKW|2agJ8tF*CqnPONJuTfGO/6iX%2U2iM9j6lKI;UJcuULQiqBRP
 Pee!+[@A^]EL.Bv5k|EnNf+gDRuKA;+hbo5VNAxAPISao/'#4mL[qdAzgPr@tMf[t;6A[mPZhRQ6/Z3PuV'-r4%indh9)HeX+!=WCM[`]2Af?.|0tTRY0Q&
 wmTP*a.&VIU-b(GLST2y(8Rwi'Nd(ar#]DZR`w|z%<4U%desQNE!V-x1e;/Ay,~z`'!3>BZ-i>iaPFJhsE8):bp=q|1)Vt(7UM*%m?#!Mf)BorV._@2'h5N
 jj4sS'eo~yIBpAPiOn1Szg~V=;YDC*'P]&-i%~Ib6CoE^Ip0oY:'QBJO%E2+#h.`HX/nM*sODL8SeLc2zEdDufG6H>#4T~,km`ZN&l4qeQC*39^XCfhbsA)
 xn[HCn].I,dLn##=kkgALaSqLbl=,<Itk3nwWE5e4f.potaFGY$-=F<_a)FJ`#nD'WCHuwW~K'.,kj`_OU$bpR?Rtuk0fij4TjL,*HIerSa$;FdY]w,EdUQ
 k,7?/=o|%iDMoT:seqptfL,Z7r4yK6?lqoT<Rgu?tDV_+fmNC3mAFI;cFX*[V$O<[PiCH[i<jTHh#[2/s-FkR_4j,[2>cwBEiWoJc:g%hVc9yoWTK_GV(I:
 #fefZfJsD=|?c]0YAzN*`AtPf%#?pcxQ9:KuX&-L+WBK?p>E<p+bRTT6`r4'chg>h=G6%~?Bkrj<Egv(#_n=-x~JJ^+%>x5vADSAm:k79t$4KyMnXm3|Z<6
 F4^M?%v!B?B5NE2^b(2xCe(#oF1R6FA+Gl(2QS^Zp(eVjq$NU9|r@6jwXZ?!-8>_%?S1ML_-Mji/.BRy$'M^iI/dpzvcD)Lg]G@I`ff*GNKjq5p|psf|0r1
 *2ef)uy@Rtj'S0[xlv|I.@)X2B-)J6ft_t_fQuNo*3)0^N':I~'!Q<6x=Nqx4+1P`4h1``SMMfZ9R-~q'9)If|lTM$<y#GGg*|3FfFt!#yqJa3/NP-*sY^h
 oZ(lk_Dg&%2rFMtVG5rwX8P_w6AgZ12_CvWXpYF>-&bI(p5?id0.dxj6^!<icX>wTKG,|m,loO:|UI*@zAb+TE$I!L91r5Jk,yelu0Rl;rgGp~C#AwL)WzE
 '1Sd$%6kPecBDA8K_o.]NA`wL*C-WnoR>9-+sh13CydO*BxSJ`mt%u-ewV./<<n4#vu3ApnN%V6L[9&T?L,spS'w$9'3Qe$YDXf9.twlL9;230h3B%zo+VJ
 vNl$f+F-)BCDb2EyAQA@Fc5>Azn'.ts9p,?,+AP|H*n4j7R0U:hCGF31/y|'frcACbObiL&1~:`k]h'1O7xMzTUBp__nCZI-=%0OE:r3*ZyMZWt~kpr7]O2
 [z:-@gGQkZdJ9dy16W4k#a'8f6~/U2,F<~,hL^VZGV(r'^ef:3Tt+O;]qVAF@]:wHA@E/Xno]CD?$vv3;NTaVTv!x7Qd~Sf|t277Z^^,ZLQWBh1bE@6pof|
 #46aG?~)mgYdFUPketRa1lX=ZE71-pL4*wo!;|k'fCTO$(O?UC;hGHt*BG$U5%40W@?~613VkD6~C~w;]wY+#i[GKdfejT#<dnU:SBdPTT/T-`*Om^OBI2=
 U5=e_'FB2u/*3=iQr`@Ff,~=teUt!@.jJ)r_<:R-e=I#QLI%.GS?nvOJQ]*/Pg&*($pg*T=]LH1'ntutd^7yYc[#_r*E`zMxz['d]'z'Tx],1h%XU%*dwrt
 m)27Tmk7hj&z~S$Gx^l/Q;7*)BQhS8Z5*7`$OhDIjG~-,6eTkb.8>Kp4ThQ+^m)rHz'kO@VWvLbKFE!xg9=MR:WqQYDw^)!B#g!b8>]D5pqx$wdcwz~UQO+
 (=5)Ek<[=NK?Q8<8YZu:Rwkp:)9DzXWv^Ud&,VO't0.$z:ZCjGT)|dAt8xc,k|7+2n`Ddl*iQj]D!P)EIB/%WN0T;ElU~NCvdqN3_4:F192W>-,/)!K.+@Y
 HIY!C?D6/!5Y9b>u*^bTFQVmho(#w-Q&nn(Uk1iIk6xV2jA4--^mQ~dOXff^XgW?7;SS)YxVT(lY8y5U8]!D6;H1y:B)?<Z2#DMRQjTq`-23K@V8*(0ZHgm
 %~%8.Od&4m@9z~8W-A&CGD~jo-N@/jc;yv*]M@-G``M;$*c)Wk!~BgR;YSmo~uNf_n+7R!aW08ZtgMex959Kz2j<bW&pnR&|'';;LP2wdF$X!_-DlZ!2yQ]
 kRaFgcIy_@7[QvSF]5[VKK%*he~+DHkj@^Dn&A#_=Zp`afcA-w09)_2f'9c*Tax.SQoX!LJfI`mc?Uq!/$EdkWE!/kivWE-X)ekMjYHl|jB&g'/Dd7`-j+D
 80/RhB5.Z7Cf'_D0cY0#F?]TELLhjKquo)voJC.<7~[EQ78P79,kp1w4_JVZdfX')q'bjSGw$&-SM>mw^'2hpYdWgXbch$6'Nwmd`6[j*o_aT=Ef-`gdgd6
 AEdhDlBr3w*-I#|t8g.>Cp:u](O?r3GSQ;diY)%hV)K:5Dz|KBd$^y9#oT#XZ<gXn4E(YTer=ApRCNrt^'5O>!2t2.am~*tl.bjUX(9=84U7@010-B.*8+a
 yw-*w*:n!#L<U;@Cp<fpGygO=K'hsS_'!WFHS.ID0~t[-$@RVTuY90yF.)Vp>z2s[cR4*)F4o!sB$Gm~!|*3[~jWTE'U#W~b%GESWUInyMT-T8Cpap^O!D0
 wso*=22JobsWX(7G^=b'+tex-hNRWWJI1:g'WcyA&,/Yjf5vb[1]MbddNmpM0%cUV[;oTpL#_wXA|=sf>SG1[9xvWkfUVzDwbkmYdi_,)F_xakh5;3C52!I
 $X^uNA5keRyUt/&x8?N[PB,/hYz]S=c3c~9lfT!wM<5q>,`x_(_j/DyH,F1rT56U=%=tBB-otzw|9VB6zfR1`CL?5/)@7[,<F0`DAmu*~_N_?*[@9L'e~'-
 7eynqi2k*A]_OL9rj'Y`GWOeY>B(N'3>LUx'h-2^shI;wVz|DKE0cda~v]8Z88f)tkZbPk$DK]/x+#@;T;g_KR37`r!-d-eq?=9X>,`5!)4]UQ5#yp(k,,:
 ~jlD-+ZS'Sy#9`3Zm~/z6poX`|O/L4MdNI:ceibKRrlEG<~LXx+(x@v*/G?fnMOA73,NB?wscN~d2b=F6Z`I|A]Hx@ORIIhJ<^|8HDvNU$Y[8E'CU]JMt<+
 &&4,UD3w!wqyhqLxX#dzi/#m<'cc_axR7.*C.<'-f5DS1QBpoz=r5#jqU)0bXeJdz|#,EaXCNbHw<-3@Bzeael|[/0L&<C8r/Avc8(t~4!q;]dgZ.H8AxYi
 Jt;eI,BaO[1Fd!~g8:oQ(9G%)Z'/=n?=fGTcCUVl^>?K.eZ/c)w|K#Zu!kR[%S1,,_26`6_z;QaO~k/agu'B!kAmgZM$^^Uiu>sbDAKp1%-fXV6~Y?~[kFm
 -ZO;9]GRB8W/8~`;_$$-Q>lK&FR7HLtkMC!a1tmUC#6Y@lWh%;y0.QB258B(?#C;c:+p/PmCU~5.b(oaKmMHKDWMa&wYN2eUUNp]EX+ywC^lk!n+Ye~6VUU
 o^j9(@b-.6[?7me^xd3(_v=jEUkM|`P!mzy.)J_RSR'PW69)-QzDXJ:s[XO=1=1P5^IM,?bS3a'2.oK^d]Ue[3D03szXdC+9HV8Zd.qgYFa`unv6!P`FM%e
 uX.xFE/6>]gl752LjA~Nor/=;>FF*SPQQiO!>L+kIzEXn(Yctwci#9Vy#l0v<-3X&S>tjd-m<bPUlNlrCF4sNue_L3fwg~pd`9unZOQ+@w;GJ!Np8`z)vq@
 veJT%9^Q58:sYZF5nb]>Y|3n<tp/i:,FMlYB]Q8(mjGKfQ&DNw_p5<#(c:tC]<oniz*h,@oMr?mQ+/!e/H%Y4nT2Ee?!0T`E-8,]2.p8+Ba2:(%xW9'*qcp
 i+,#PKog3ZGXl>*CK!1(|3@A)/3@(ES2?m,c)b`cw]U2.)rlWelN&pp`v)$m4F3y@wLVY;O19~0w[C1eL%x7d/I/[!s7*b`QuU5-.@u2Ec9O)CWUaGTncE>
 rq$hJ0vU>>8L+pRf]Y4&04U=Kv;'#/2##uD#WSVU,%d]/gM4ov4x]E:V+aOyn0.|`<J6/uI(T`(%)&'8oFBGOGG&Ykb%AtexI^+)t0gCld=Hi*_fQt&*FUp
 P~-iiA/&Qi(>@$<$[1D|:9NWQ'KSPQthH.!vO:;O_W6+B1;e$y4!E|>B?%_7%Jj_JNE`HYeX;ofoH+K,[2XTHQZk?x2+~VS&6B.5XS3zoL<?F7e0tI.%6A8
 =(g[V?Ds+`/MK-j2E0<>;KI!o]C>^GMEo[hBMHCzQuQABGu2~=<kQ~?@,Org`#>r4(Lg;N0a%/)aZI%bv!*(Mp|AAI-R~(ToEKZq'd|^_y6WFh22n9,SSPf
 T>VE%e6L%N)Phs]E[amt3NwRc=g<ol($iQ[MIkXZ=`6VALgxuAV_an`o+KC%f1MXo!!eE[i11gp+tx@4ZJJUy%~/u*$JgTsEdn_r$z)!3@XlnkgOV+RCuW?
 ,wB$MC_Q4(?<s+y4|uU,g/Hx:5'A1<DO9XbL'k!.;=b>MCerpFdeJ$148t&+C2,R^/VemYk#`am``33d`1|!M+tNn[^xny&%Eh0nornR,=plH1ghEcm3.r4
 ;3~um4<kgdDp[4:.k;Y8^SmuldDC6xw;<[VE+qpiFfSZc]pG!I.8x<=(p]af/`WPk:IoSX9S*t%7MS**j5Gy'x5mj)Xo6>iiA&qM]VfEbwg>?2jW?_q2CLc
 sj,P#LI;_Svd$Cmhz~=~e,>b%xL)Ov<3pz&Z0_tI:LsmQ7BfgpT0~9Pb~)&b&s!M2&.%V]B'.%snjKOEO`v+V7QY;x58@PvBn:?3uGbV=t1]'fZyw%^F;|y
 ^)t-v(N*7CWu]TX0eLxS~?lOS&DhWSS6`J^)!PBZcDi^#S7)YQ2!*AjnV&ERen%^a?l_8W'1BCd~tgn(K/<hs-i^73LZS=.s8ERyWZ;iOlp#<fJ'+<K2Vm3
 Lr)tMi4Pgm2(Q7>+R.MZLrYChD<j!Oqx3Vx#GO!zJIVNsPRze]vfweN/zmp9wKx|'8#+uSsh-aZA`I:wu]MvB|+J-@w/3t%ZBI@dz4K]^suk'u&%W(KXuLA
 !d_i9$_/jRcVytIE:B9J4lG|Luc(a'VpQ2a1XlpuvR&gQlLF74$56vv*>0yu,_-@rKs)Qj]i#W85=&g:Ed/q;wMuSR@yxgN<77bZR&#ZDRAe_MzPdQlnP2R
 /j=M'pdnG!(!P2^T.Db*)0|+07|WZ*(6p/`6al$~WI5A%^oS1/+.~G[(3SKemmHq6ooYhjnk-fgNfqxa'I01|&*0234|c?0rH9M:8#;Ih1Z'I#7enO>)x_^
 :qh@'&5+s1WQd'kIKlSs%q7?QV1^01jMdo+_BP__]`NXR^]5.JY>2O%NQUVB<+/)h$tC.>#@s%ehT8%4*jliF&H0W6T/+`SrtG.HV=;i.-Fu,ws#y]Z&_C<
 q=6ToGR#aS4Qd_&w?fJp%G<RD9W7zp#e]ZG0L&p!_@)o+[*_Isc|aGGU//<Tf%N?Vh&6S?s_[Lr6NrI*Gxeo'$K^=Kt7yZ]O^&-N3a.lR44FrVl-NA-=lRT
 ebV*fX!pb|GMWV8*CgGsG!UQJ)9Fblu(Al1l/#!d[JIPzB!3=T!3%|we-||`eb*2FU#@r6':9%hQzgFF2C(b8CN$h'%zOxYAOJdIu_|i/jhFpO4gZnAWp4E
 (E&39&4J!qc6V-KHpXMnO9wdcvJVlIdHwRwwuF>G81C#ZP84xSO_u716TJOtgFQ'`x#5O(m~V1k[.N?auZFtdgx9@$n]qzR<H:5#c:%Bd|SiBQIa?6'N.i/
 juGk/t`F!u5q2:iACo(oiT$0uPd)yFkp`T9H?q,&#vvRh%c@7AQzNL_rGGn^~zo/hUdZ&Roi@Vf@=v,GzZt9JcRISjV_JfPZ4DJ9w+6lAZo#RTalRgbVtVx
 :2%/wUup=QgB19z]`wvG]28?%TmQmi2[!omy3Om0/R?za-yFpIwP5v/0VDL@zxk)4<<:NWsjSiR'!T)`dNnuc=4~jAj]v;E6YS6,e1w)*B5xn|KL*$P4KZ@
 M:(cT-6>Vc7UMJgZbf&;7>Z8pEh#8!Pb!wWbOVpZBytX:'k?,F.1:+^nFJtZ[`ZS|N=_9N:te$:s`>wxE+nv'/|0pSnKi>TF2LU)!OOJDVU>DoIAx?&P38k
 ]bP(L98XK|T|i;=R1BW>FTkqI!F<T8x)R456C',92<*yEHR(Ayo@*N5qNlwi!cMH,>FO3skE'^wD@,rCVQ</Q1p^^&*P/nJ+zS]Sp@Xf$Xe3OQun>eu&]-c
 6xq4JnX>kK=b`[X!T52~j4A([Ca,tQkM'lN%'#lIQw:#)A2;]=B4MF-8.~USMqmk1gF.+U!lnN~rlkag;ARu$q=Uyx(6o]`~UIIgHZ5_V~A)[VZ$hzOC8Lk
 T3jFm_t]QS2kXz-1`Xs9+h&L6VJIf@>,KP_6)KSIPx*|H7Vp#v1y~uvSlL|~5n&2vfkrYG?b=lOJ4Uc7^4W,28Fhr6RtS9xp^D$~KIA.yw9/%`*])G[yM4e
 l]p*];U]/gpFl]ZX_:k>[@j~^h6X|C~BaL/'*H#[IX7LSqv~@Q~pPw=6]A$`Y!]QIuy;L=*dy^rqnt_]&4'[W#E8v2dq<`e14r7:KZd_BSEn-ac*vJ()t1%
 Tg<%y[%#GI/s==!A~H%_0Bc5Y|7z7:>sD/!4`eW`aK^o_-=p$H.)MiAkg:N>/YaprQ9*:c[T-GtP7]:im.oRUP8~5^bh#Vyp;V7T;X1XHQqjVpF6Ss3wt*/
 o#0ow@M;Zd=XsEnKfH'>fuaVXO'vVc6J8N41jSg(H>~N8iD(+RzL1G'(+Dim81r!wmKwUaaqsUW&^6YgRUKV'T6#h,NOH:Y?g&G`RIb[B;2d+RB;|+M^k>c
 [3#z?rXEi;0dBZ@#GMKQ&HwxLc.e3n4?J.rMQ,Zf?~7'wz5o5myRzX`(,On1u7W.rg!63o5<]NwbQ2tTgO!Vo-sbi>c?lep?4ww3#(Q5kOT:D>bm<~>yU)A
 RFUyU&KVE3)R&K@~tOSx7F;tVd!al5nf4t9+h4[0rJP),%ht%+apB>_OrfOPR3L3wy1e2;ck#f:'ss::#$#;I4tU?qmWv^x10r!nHA8Xvm2+g8|183:Om'n
 )~vi_CItGuL~)G.2)WQ@F~]>@zLp4~m|;s69EyX/c_5ocDdW6r[;<5+5NG&[V^<YRT#rk|MyD?I(FZXXDUnu3fT#f+vpo8z'#hB^kKoOY*jfGP][UC<+asU
 )~t)~FhA|j=4hf6oMk4d<0fk@O48S#P$niRrU?XHc!sWw<9s/p*DASsy[Z5S'wq,Vhu8eyt;|~Z$@2`>J.G9xkQ4wt3M:a>/zbYj4f<RR5&b^j!tdNqW'*M
 d7ReR:|naB|6@a<bXu@Ni9fW8%wI#@tcfN`lq`cQTw(I=3~Km#XbssHGiC/.!KTg`9'$D%tB/+m|:<DkwMxYjM*OVVLa'W&Af(qA+$h;ZT]g6%xSB;+!tKb
 4r+z8Ijh|j.J;&`xaIYyDqE<oW[qVo9|eDhZq_0[NNA8d>PYvv[^8vPP$J2z70`IC-1$Y2L*;+4E&)]:6Ft1Eg>0$K`9Hocr;8$f2t.TtS.2!@EJ/5g8?-9
 I@(Mh:^WlW.D3F-xk+CCC~g5h1;`fbz@NqsE2K!AsG6]fpvVDY%t:afAC6K^vn6gn#LM1pYZ>(:6`2N.,VHzn(q8e6*5|7RDu)FXS``9xjDEob4$UCXdK0z
 t8F=oeEPcau?1Qz(Pr!8M:w4u%pOpjikqTtU3|;:fW~B=8'Ez($Rl(4'?~1h(c=LG3<`<v67k4n+|Ngt>(VyB<N|WM=;HY`~3I'uJ#<r=/Ndq1y_%3LwUYa
 r=XK/Ip[a@|vv~k:8*c<h7)[q`y($wR@|&sWRcB&>kZ;Ot8=K$Wo2xr>dX;:<mjd)JI~oedAq^z]DY[p4>Oz<2k0lKB@1#4&Wz[SeV?K4b6)Y-eQ;M1@;X|
 XERRNo#)tX7/W]oCHi[/]pg,3@q3zjtwJW7:C.0nWM>X.WD]EP&i*|rtIYf+ObL.2h<p<0<^tYaIi_!-XhA'mB'KeBWjYf9Kl1II|Wxh!k5wc8h>(k5_r~l
 1xZC$<zXGX$@xLrqUv5kdGZJ.!;'qele<X&,|XwRVr$]kvqf!4NVSV9.2N=dQ+pNXBY3`:Bf>MYOM??i9H7EJyn(9Vdz0A5C7WDBWR)'4][k)]GH_w&4$TY
 ZFnoc(l/W4%/d3A:AA<:8Uo<kNI(SRD/19~U^Y.O+@:1s7fyhS@Vy]X|HZ8-8(q=-?Zd,gJJVTpd7J0G,Y%~l!TMhhn_Z+1%-zgoBd]=)&^,~~9kOhQP4gy
 YasfME[=S];qG^gny,-Tcxos4356+|w-D3+BJmWv9]KzDwva-[&R'Wx'OAn%0!WD)n:fc+y8i<I)N+uk8/3OA,/u8M@_uVQei1K|baknHuFs>)W=Qh6R*?6
 &l(fxlHA44rk7z=C1L19H<_OWC&1#>u|wJ=i#jgg#XrWb![C$-YR&*B:f`N.=H>mC@Tj@qB_:i2^tNM?HP&)):rQAK,.gH&+4ANirHbc=49#aNO%aN7,ZEf
 9Ef'KFjMBO*4U4c:8'P(M%r_w<H.N=REb,PAoi|9/2oB%E%rB.ORYGjl4~![rEQZ9p+N&10fRao=5ki&Q=ztOeT#YiY>n%AZytF)9Regd_p,B(+TC$kG9D'
 y|Z7$UU!j%mM3#1GmelxNCKf?Oh6x-fIRGfv&6M,DmOoN'@F)z_M%Df:8Y|sO?3)f1oB=CSH~])b9Q!-NHd]90)Kf'@LKj52tVdvs3Y&lB?R;4XQePs1H<X
 3VX8ep+*uS4OkEN_Xs0@>i^.s9Pit/U,4'H_WIn6`EW~NuIBl&j5I/;29G2::!n^:dT&b,p.'jYFRa]|$ls155]gYxVNAP.@C)s>jKMTG!kA7H&*ynoQ;(L
 BBiZ24OVtc0X,ko`h6UB/]e?(Vsop::7S][w[eF)Ujg.@.GkVhF6:qz,EA6H>wB>X]V.12!+qQ[,Hwn[?xiB3rk6m#~tspC|@,C<G:1<c6ndIe[b9+yX/^T
 Y+fFk3t&6U^L)C/Pwx6T~<^]2=2&8boI`Jv90j%4%HqjQt_u:N5g(OQ4[Cq|Y1qL_.6Q94_/!4GELULT.)k;7j:PgX5Vw,r)s!#p*TDr?$vp*;rg,asl:?Q
 ~&;C?Vj^n`4`KnB7wLD*JoybygLu).8SKEDo&.&h6#5P1tINYU9?80#v@|4~uWE`w^01x.cmU.&Pk*&-O(5);|mg3W..H^ElM<2U7+XL`xP)?GKw(:(/WVs
 :B~CqP?vgjK:[$R(D5hc,1%Qsaopx+^5qnguYH[NCoVE,I*`MI`0=kjIS(R0~6KBO1CKdA&WZ~$LA>:`Pl<HbhnZD4@5<~`k,9CKh-~j;p)RWFVaArQ)'Nb
 3*!@N:3:Gb>C,OG`~;G>a0<|a;2sr6G7@f:nU7s@L*JP7;n2&6ShSqaQC(bG$*?#*@!)&8<K,Ib>8X5u|fgmMG3y($`1TLN-c>GEn|w~j,~ZR@]p:<GUoP&
 rBBK#]x4TVDP,VgU!?EL1j^oC=[d~wfYIgb!9^b89m?rSF0F/%P<SoE[h@Q4dE!vZ0ueX(O.v!S-y|'q-f[cOz<.@.idFq>zg4M5o%[JeOq-UV!3unX#]88
 Z#H%x#m*j$AA(g=al'U059f)t/rwa&#&%,.<y2MDi!F+!]x]3H`])Hkh#N.>!HXmPS~(q%q^ZQPX#?Uh/^w5n:%rp&4LCH7zKMQ|R2<b]b(?67(hY[>m^df
 I'Bv9:fCG<)6:VOZ!%u@7ql/~[PKxSY;0~K*Zd+VLs7BO.O9^vK=,+G7dlg1$9a:x*Z05PY~assHh<ScQGcMHgQDad]lu/!MiFO02i4s1:wJqUW!RzNnZNg
 p'`1B<n2Z_d_Kasu]#0|9sh5.r`#h)@x)]AY~;Z#onFW=)w)6/&+-U[NFui'w[_H:5l'~1HGp$&L:7Gt+C&YIHTV4l(8(98f+5O#<AX$5*8Xx6RmVhcNRo]
 0,q|1cG1Ba!>oIeYAl:H;tzEWH(-U_R86I&$p(BVqy;Y$p-X>&?&!eT^_E~2y[:jmmT[%u6]IkzB/&[3|S;AUxFbe4,iOW1%/~/0/w,NpiyoWJN&=y%6GGu
 NnoUKyB79?*W>+OxIGI^q#CFtZ(@mdw_NrE?*]*ABZ|7fC^*c=[fu#s/Xp9D&f$AM:3B^q9~63D!wyBrx4n8r3A[oPsCJK[Bck2n;FW%Sb1[GoM6L;nyoPT
 ;uG`gnAR^oyyiI4'ujS.:epFpW-&xP*k:;],d7wFgV)0Bu`66~Z1^Ze9Ps1dCXc?HWq'#=8G+EP=_@pIK7g%dxpPc~@896TX,'Z6[ge:y;9OZ[`,hp[=Jaj
 ]P%.hZpT/LJ/Yotvsu;1X3SXjF>M+5E^2=R$yPD.J)]QYCKD$&dUH<%n:n5V:(6=QI7EF30n9a>e3b|~Apw48imiyeh;piHSui)!W#)XM/w4wt4%esc%_Fh
 ZQuE**I6!_zEvzch-3ED+HzSE_/f2++]Mz3hw:Bp5]WwsCvs]oM,4g2,(^gQ`x>,3I1p@!4CweC%(]iWqJ%s^K)9/wBO;xnXmanWw+s'lL~f`zF*)?N((N.
 q8bz8pVPU`$S)l_HSo]j<E]:`>SPjh7@mnVi)Y8a[I&'l-MsvO8[~qNH;w7RuYviQw:$wF7,PsVG((1ezzd.v#3`NX0QYUZ!q7Wv(uQkYOpf`))GP%~0SE%
 %tX716=`zvrF]3K1L4C_'Kcc|PcR_4%t|9'9PAi]+zP)@Df79;,di1gJ|B8?dvrREnKlxd!K[:P<Ppm-'>PV#IR_u<NvpQhK0?;mv[!Yxgdd-?po4o7D9LM
 l?82dLVRk~MtVs0!h0Ei.A9z!yRSuX>(;o&MvP;E#8s]ENu9;FL;A%dA+Oe(sZ?SJZry.w_R6qXoIe`h`0#1g;])qTvvOp8Y=LsdKX4jsWd-v-E7,t_v/?e
 GH*>JFj`QKj(%maW'?;Tw6+n@3ubLc1(MK[;d./zC^T.6AplU|L`08x%HOTEh=[hK9AVqV)ky9|5qc]cqXU!]c.;wol1c1=7sPUM]e&j)8tCTjlN!Os~AOV
 Q'98vt/t'9mm;v]P~Yo#4jlbeoZH65?Qwg~I#()<iL6K=4RcL1W?+?^Ste=Nevhw.4/J?gRrrzF.M8vH!M_nvMej|@[mj;S'<+0j6#;2cppa[yP!i6[=VVx
 3&J**]L1`60=t#?'C`OTmS;TTQG+G4[h[qe*#L/A~UGVcJH]]C9wgj^Y1EGZINW,4(/)J;`THg(c_=s^F~fq/~Y]C)%U]4KI=)fIWW=Te`snh[97NwMAqoc
 R1$C$8k'r/YcgS0)j,z@JyMQbNI~HpJKzZvehPXY,%M0j2JR__<Oa2-vFH2$ftS,$~ja[D/>N:1h)]-~m:,-,&1g.D|dJ.(rno4,;B*cQWTeP?=+|W%|A+T
 K-Fa@8`]:e=-?4Y.w&RhNT[)q=D=zZFeCFAB`1RSV]Gd(eDJWirED2?N;!OgrI!mwO$hJpb'@+&5|2FRmB;!;9iRic.c4AP8rdsD2NWL]+438wDQr=2?xNQ
 !sq!$wH>,0e/8hgr7O$MqcC:irDW&R2jV.DoUw^FJ4SZLFFG.)x$f@ED`5Oli5e7zmp?2mRo@[pc=^we5<_a7kYSzTZ?</P+0$AxVMbg!Yov^J<,0IElW)!
 H?wze[Ua6txp_A&k0o#<ZdB$B0S(GvqLA]7~L7z.z4Y<3)`A4^1qkK/Oup;c3_A7v8QPX<G18L`xo,OzpE0MVd?9@YTL-kwHw'OyR[=L'Z.VUQoBK%Rk0f4
 zcoqG4.HrX+*u:U@D/o!PF%sB!WXi(]%%BrKT,_hL:@~3!(f3hq_aw:d,jTF!5J~3k8+ox>NuQWGvMo)EVI0)LnB*%04gWzg#Q?vE<^)O`n3|bBXxR36ZDv
 _3-[Q]`?k2da[s1Tpydnh5D]Z2xaGRe]JzZBA?rF.D]3,n>*0O@|[M$3|0SDX/UisM05%$R.*/,vt$&Ve!<;h3i7<T9PxLXa>4r>#4WQ[FZ,<[yXM3erFh<
 |=7q$ikC#rU6a_H[?j^qx>zS~VJ7es[Rg,rDMti4vX-H~Fa%14XKyEK*d=bXkwSKK(7,F7(w83cI'o]cgS3MxPXoavSV,/^KP;qo6Y@)!n|MBQR^Ky?.+TR
 '@iN!JUm8<Z8V0GAZ33e[N>rs2SF.t-zPfWoy]~g)Q05BEV`/^cTg;6OZBU@zN|'NA6*u4.|zT0E(HIi9P`T]NVuMVm3uoB!!!"

def parts : List (List String) :=
  ((Packed.unpack packed).splitBy fun a b => a.isEmpty == b.isEmpty).filter (· ≠ [""])

def plainRows (part : Nat) : List (List Nat) :=
  (parts.getD part []).map fun row => (row.splitOn ",").map fun n => Number.ofDigits 16 n.toList

def rows (part : Nat) : List (List Nat) := Packed.rows (parts.getD part [])

end Stencil.Text.Tables
