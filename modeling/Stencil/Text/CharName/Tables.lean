/-!
# Names of characters

A packed table: runs of code points that have names, by their starts and lengths, an empty line, and the names.
-/

set_option autoImplicit false

namespace Stencil.Text.CharName

def packed : String := "
 ~l~+UO$x2Hy@?5I:9M>#2ur<>/C(Eo:(j`S_/CTF'QaAh,c]+xu3u6U33R6;uM%y@MPC)]NPm>HH0<af$qdq=K3rz#&@I1M|.9)3Hoh/ZtS2nD|eEq[I@[v
 ~*Qz=I*;mQ.3'Od[zeG:KMZB'BGlR1kcnVA[p=vVT!1_N^3hm:&Obrr[Ij8,0<,hwD#!aK&aL()*.9iM3n-Pi4BXOw-=//-D8`C<Hbdl*xrL]wf8KZ[os*w
 S;+XFfUL+l0vc#$S`^)_%1|O3;HLakJ9K|X3o3wgKd4]D@,p]_'F4Jrn@&d`Itkq&*`?H4QQph*9@2;fn<HZSq&amS@mS:6`m@fB.J]:Bef%YSL</a~x&!%
 H&v:ZB%`b:'>ew5fD'(.gkr?%$>4,GyFE,I9l<b_].nH1ujKnKU>QZiC`jg?[Np]Tj,Gj&PnYWf8:]pd@XjVeNcri<GE1tX<NoaEmnp^(X31]<;izhPpfD#
 +bM1~CT~S*a>v0.PfwX'coDo]q7c=+3l/pUa$$?kHq+Ne^CU%8zP|Y2Xg&2F[A0-c&p~2p-8YYwPnt.hApT8Te]nZHIk6dKFbSzF8/gu8g,nQ!;J0yX;ixA
 I[IdG'(x/#RRFh*Y8@wtJ?(xVe!A*ym3RC'D^=`ligZ@oS2Wvw|ySSZWQEP=)sLHW5,CzCXthx~F4=mKCsij=R:2Es4e7$C+s;t!S[u#kM,O6ME0ilPPTms
 6<?+]ckGqV)^szwiq&S97f&X~K3<)V1#wJ_%N__S;rQG4IvZ>?,p<O,vynaTm$a7JL=MBoKzFn^0YV6*BFnC[a%A)R'eepG=rH3K+0rdIOb7c.Cs~n|Rt^R
 h2LcQ?HryTI_3p=CTV>WUt-<%'v7UZbDnD]R]^I1Sl:@K`J'FZ8h|wOLy*z9$mv<(LFt.PlZ['^WX;:MFTSWF(s,OE`k(ShA~*CiP:Oea=u<h;Uc.<T`_iJ
 6D12yIA846(,4$bS<4l5'gIa^n_?rK&CFRu:nBJ+y><:&bch4C$LZx>~*smXiZH[6??KTk1EZIcw52BI6<fp*__%v':qZZ78:Z_D)SI-Vp>bb7TnY.4^]*E
 jzeiLXdLt2^.uS55yK89pl`'e|WHA6<~<MkD)mVB:+sV+`;fd;0f_2u1!.?OlE3-beWajA(jsiRO>f=5HKo<g+u+xE5_w-_@ouY'c@^(z`~/]q3Xq=8$egM
 7UoGW`zM|%|O58vr`Ddj-5l<;Oe[_!dXG`]I.qx%kSAHH`eLFaSFb`(='D(uj+/y(B1$cln_A,T9a4r>50<[D9/!RNVCO;CF(|sZ#cTK&7`*9hYy^Ez[aVo
 emw;,>3/k^9(m~P:.6U2)g!CN#IGEut'Vi.3G3~BF'uv&h2iH'hf[CxHp,S&kjj6ZPqIc_D_4y(0Hb87q8]`CEc|I:fKRzy,8Kp)2L4AK,8]<:Oz`x_pqhi
 h/bql~X/9#C7we(L[5:9!]C.Y`U>DN.6!!G_EJycqI5Z#_zh'G@xx-1Tx'F7km#3n3*L3&yrmtiGURe#ArCEIhGM5wi)wilmbupTPwMH(Ex&o3%>)bN$)+.
 SCtIBS+BnUHjlSVY-W-U,bG%]q9:3LE5|xyKKsWJWK,WN5;Dut2;mfz]drynE33YhK&`uMg.OI$#<i`j~6]_Qzo[gI'ZX/wldk6ZJWoWF>3?!&l4M)?rc76
 nprC@U7nW:)JTLx!T8Un;tOFOHDRWdGhf]N531uoy2]%R|??QH-*?N|b91$e8Xm&&~1;K8zkSkTXbQ@j;,636[G@?`TD,RNuE^lX/(,+QCTRetdQlBs_?cn
 7)7t@S!-8S^6jU/3=a7#avtAY^hx(3nQT<MFF2[TZ#URU,Ynr'xK(K8^7x?g[EmUi||2f/dFY&*Ge6-U->r?r-rYQ:Gscii',>;m>@:8&)qY]OUYUJGcqz?
 l]oTPYs+%/WK;Oz@seJW$8>Qacs8`$r;CtTHbruU=dnf+WHVH;Q-b]LI%A[/$fuhbZ)9QJY@c'5o4.$QP'U7/uMaXp%tzgWCQKdfH=qIl7Uyn8D(Tu$Gob8
 Ht^]Y<FSj`P+xpKYGZh]H'u/Jf/PnCOT,/gOCM%q:1H,[[~sE:@k4J0_PHg1w08*j%nY|#Cf&C+&v@s!%&G15AS1G/|iHoq%paHBxgfQdrQXXQGBun.m!VF
 lwKBE.Qv#<ot&=VP|H1#38~=lWv<i;mP/V4xpv7jmss*+#1!Nelv9[9/(:XiSi2JgsbcXXsl'?)Zi1xc-A6|;eToSifgM'vWI#TTPyR!0Tq~Y5I,)m3$fH8
 $R03_n(nU>yqDWFS=#PbTOwMrWc~Nm+mCgV(!=$p*sWwk~g6&lRXPz4/S#CL2BpLy.T2Z<PPS#_<qQf|0<8y*%Ex5V/~pNq!?Z,rQ[]kx_5%cy=:5~1Y=zB
 z3'awm0T*L=f[Q(*'W8^m5^AB?JFuvKbp>NR@ojoLrIC-~0/u1/mX,#)!mH&^X%Z5/J6[~n5m$~-H*Baj1l(4yBFG75bH!/=%Y%A@NgL`kf[K%MC]WmSHPv
 D$B3(QhU&L#dKVk>P1gpz7Y<<=`Wf:Py65v>3.;C)d^d2,KXZG@MaTh#J|T`&~17!h`9v|.E595_!43'qRQ1SFzP>PMyO;Ox4R/BWRlLJXM,PbA<anY)2N#
 e<Nc;uH0]=JxJ4,|.:+>G<D4siU_aaN0':UEOU6>r)i[aL.yxfq_;V$,_0$!57EOC/Dc6oo[6k)!R02d?%l%,_'.WNJZsy$DUr&2O0.[FujeM.@gbz^4z*>
 )MOL/&p1F(&S55EU(u'04$GN?4#^T>Odv>VjCueN~6#auhW=shLj/8GrDwV1A#lb%MWY[=R$PS@EX%/,+J?Elt)%c+hcQ5D/)2`z8rLEptg)2I&>@|1ILU(
 EP]I_srl+|u,$OxR_m/IN/[Vvca)FY:uH<JcA~TCDo.&l?_&d$di__z>-Bg03`|%Lx2ie6ax',.v(DW-&vi+y~gA<HYpprW)]S0NGh-zDMLiLsN@fCI.?kR
 56i0l#-Jkz-cJPrK'53LgAtecZMj<^C,(=VE=X%t[_DLi|VM+C,p:eR/jzu)4aQz$Vv3Ev@H:;<TL8~NNU9B-0efE*jl^Lm]tEMK>K@Y;c:Hs#8xph-h*g/
 tB-YS>8MdV5cAwwzsIi-S44^%)IBQ!</#B_cUx|iI?0Y[k)W/.m,8N!&Bh)]A&Q-)h;muz*Y,TMCc4k&:',cht3^[wC|~xT~)3+z|zQ^Uz=#KoRn;*<$)'`
 :O~nkTi4&YU_.X8tS52>gQQ.x:DEovr|@;KEye)L8]v)$MlgB2YO8?meleX6UMWu',vPzh=:#mqxis>dPT]1xfd<ia^R>GtWs35Ac?J%twkEGyfU#P^I]Ly
 3Ue//4<*8,iZ'n9SL?-),jY%zNU/c6WL)2*CK.3Ugk1*ysZgPul=VLuMz~JTH>GDAh4FPQaBKMl$<l1ZcA:~>@OnYYAvs7Rvc3;+u!@Zn]>*uH:|OHR~npo
 (cko#hAsJYJ!E7.Mk-Jc*[t9zQxbEvL*zB9Yz`WLVL/F!0G5~Dmj7<6~r.hZ'T+N+D:(jZwvjWj#'-FDe[D^@|:=~Y*_V+]*jXK)%ZGwEAE_TK2,.o=+=N@
 .n#;v[3+Lc<)^NeALr:JJOuSX=K$x%-tfN?X?r[5>CY#!6,g(1zV?N~1W@LmaA=O*zBJQ?%;r#HgoNRj6xK$:VAnv(&Y>.6fe+uRx?B3!+QTOP7ZY,)YV+/
 K]VbB_3km=;J~7f.Rl0B<c&w@V0l$pm&:`&5,s,XaSgDV;Xam37uS(o5H|cB(>cEm*HaNetEW=LPf5*MqbO:Y,jU?M1zx>FRF$$azkmFkzL1?Q&zLdZaSh$
 1O[xn,|N[]p@BN1O,gj|T*-gM1/G~_;BJ>0pRdBowGeTs3iF?([Pvs9&P&qf5QeG|Sh~JicS*kX8KpfcK6Qdu:u()lHH=>BZOw`=q.u(H5-PHDV;vj`_S$.
 P=-6eJXRKkIASjg2&YwS`Wx@skGag/Hxk+@eV1hDs&>o|)=44@THUmDh:P1N2CF;lUi[Wu.is.jbmud'_6dUAJVaWo>)mBzLPmoX8uDvI(=[O+`@A48L58t
 -_x@8=5;||zxqyU=/MZ';Dgtk.~(nu&[9f4B37d?@-KZ0eOdbMi|rn3G[*c[y^<f>GL9dQw$_%/uz1Tyd?EX.CU$x_X'.ucyQH?Kwd1tU0^I](H&(T)5P'>
 |x(Us%%-GD$-xfXSG,|AGlNRWHv=#q[N*Br&l+o2aV$(+=csH0u-=~=m@!==YRBS:^@pU&RKCL;_|&E85g&gr0L(bO-7naYew*j75_mewC(nJ3*x_Rq~:](
 $hZ!Y(_/rXJ?6`RY_RNm/($S$zY#&hC#m4qRC!c|,~RnMop_t~~ZB%cA^De`$:iDP??tY3_n^d0wF:G?TA`]NV;hA)E[A/S1eLN>k=xqB*9.wlXwqJbCJX?
 vYd[f-qB=|47U|ih4hO^n?S1Y].j,pXEN;Rcn?'6xP7eX3a-]n:e_R$T/g#F2P-]=Y4]Y*ZW4#eFojxpmaG8hJBc83T.JHdTqh3+[?_Ke(mhHy$sNw/t>QV
 s=WJkmiBzWj&ec;.Mry!1ipq1e`f>d0&|W%g;q~;,@^8(N?!!,?e&oF2rtDip5eCA9gYgJ-cOt*0V;`^|3Zooq*[21WUV#sRcwitQO>%A-8Lkb:smsE8NZA
 ,1S.=b]ofo6FQ_?~3RE-VJ?C.RxqLaS.)K,CF>|FmNVXE(/Ngem#RZK5YU:>!836rsQI=]gl<)=ZJ/-:UuqYDOiZ%vi?cs&UOSok%mTq<8DUph#l?>nSSj!
 j(&q0T>7ZyGh+]'or~m|$xreFCZcc'tz~AGwV<A8kW`(-jBQSg1k[?W'Fjc=rW=`.Tfgc^jcXg>&=uQTqR4&PyZ2r-*opbxen~q.5wM#ccTH^-)sLL>BtU#
 k2GpElQV.k#/Df6BD,1%BNy`XxxUw'%[Wq9-ID,OM&r%pTNnO7_),hdfcf~ipRgQauCK$=LAXS@3i-S:C&2N^bpbhz#A/wL7D%e8?1:;TWXY21SycLa`63w
 %]Pf0Ec:#Zw~18JOQRx_S?)%@`)dn:h:n+4~G%!,8k^b!(GH`KmUq=Se4KhZru=*Gci1FsvLX0*K#Jm]hTE(.f8-1qTqEvWg5+9gfUvCSIOtl;'4']O5JZn
 YI[LC!l8]<H>4~be&x#I=h7qW!cJP~EM~D3&:UmaSfW1,=KvP>v!'>|n)i3Xf_$O)=18A7!ph=2(&i^d_=?gV$;f*jmLWY8E*[N5L5ES@-d+k=s,]Qnyekp
 i;5lFu$0>K!t[6X@tg[YW:$SgV~H.#f+*LL-,.)(joQ2Ji&V62R0@lY[Ray]`|rHfCo%Wo[qw2?<`(xG2y4ht(+<mi]^mrYZ5=NIzo2qRcouf_O];2.^krg
 9.n44(lL$,2h-Wy73dNo<ekt('oF]?e<NO8Yxy_8-z-LQ_.^8|lEMVoaI4dE`Kh,p1>fmRP!Jg!ug?~x+4#`|o+u&6zoIpk':[76);T^L(5>>M$rJE1FC~r
 =VV!ov$ernUh%%i]Y6RX9@%txzC(fPWEWS6P2%Pnl#?Ti(El]27)y1'~GJL8~((o15dvVQ+SRsl?y[HT*MZ$+;SD:Fc1n.b/:e(aD_'n8IVGR!]pDB+AmmO
 3=am/&@n&kJFrK35]Io=nB?)X<d<Q37>Y2$jT[XrF:_`6J1ZU5ndVi+4kGjkINxdP.&jJ3vvX6;sG#t_=!`lFhjda!?zXR!Fc|8lbL'?pqm_4#G,2]FE`O7
 67%.d~LX&!A!7@RQ/Oa'pcbyUb(yDG%Zt9SMrq5~hw<<+*oMziS0_%4pZe]OGdu?tG]?yV4UdlG_g!)9/u@]vXZZD0>a4us)u5)m`8enj*6x[/dITOToET?
 m9=6sB)?n1$HNo]rZ_d&3xw'/bRI!@r4#!#d*kwG7xijnI1UJPG^MGDQPs]a8=d2vj7tH^P$fn+Y>/6_qHsGXw3mM>a'Sij^DVY9%_3^z+9Zc%yaN;)Jw*B
 !|lCl>NXJmqQd7%qsZNJ<T=dZ^w&40r>U?o`5/v9kQKTm1Ecchs|rrSI=GIA/2981Q(J().nvCVLp&@m=_[f#cy%gQNfa:u2b5`$W5Z_~PIRTA4,*-Km9Lf
 ^eME9PwvbZ!!zS&e9T&<w,WOKJ)d8Iqc'`J]2+p1'|=vY;eshh%H3TCBS/Ff*ib.KJ'|jWER&@,]aX*<ey*J_js&/nw$&4;=a5K2dV~L,WDNZ&broz_t,M6
 VgkpNJnDi5xFuA?.<Gtup(;2sNC+/(I((S!CDZR8.+[jAF&5Xv$js[O@h1ygsr<ZJHOU-E1)h*qGHCWAE#?ia$NEa8Lw^uXXn!fn<ifhv;6IC?Wqq@Ne<O@
 iA[!5rq#J&HA43D1dZ:-+b]YDBf:1(`OoSh7HDzJOx@NIau,oQ'mHX`k=/kXP?nwreA%1hTo2,!^JB&CjvMg^]K4/IW~.B9kj'|4Q!cCzlcH-Xa[y$7@'UB
 [pR|d<#Xm;`J^mV7.b<G>&;yJT[Oqp;v?Dujq>v8h`nCpLb^,Nm&2*J95O5,hv,|k?Ed2.SQ^`as~dGa`B@8TbV6lHcdg;NhZCV3Th3lOTVH~lXE_COvr;I
 8I;%d`guRY:1S55<DdX:V9^^H63Z(P[-O8g@Rvh3wQ6OIG@7x8gpAvI0&?I;?SV)P$%y'-;B/ii3C02%I?oOK*W(8vksqc.oWggOgma:?XN1osk9-jV-9E@
 $4jnZ6Suguya6j[:(#=lQV_V@xK0Z`PH`X5R+P4Dag_!@hm,=DI(=A+@Rojyr,d#0oPBaav+NW9q4#`HVkKfL3cDHV_PiaJC'j+jOZl=a_^<%nO/UlHDu))
 Rti,FfC+<v8i[A-~4DNT+(`xU::5N=N`nDMp&uE^0R^to7qvC]SAnZ[xvo$TUlwLInxIhh*+(Ix(R4,,9XzQ7H(F!ir$-L!0Kz;A|F&<:1P*6HJuQZ2W^aF
 Q-s$SW*wO=!bBb_p*?6k]n..2MV>o-AKWPi2ohADv,F/LX4ma&rTazWl'yfL;7y?$w0W$'Vr)98a-:dAR:!K:Xz&hcVQ@-'RQL1'xms+/,$x)=wIdF.j8p9
 bK]Z.oU2,:Q!lp?295MONN/m#JGPE=1S9&T:u%$Fq<31^]8AW1<Mg7i-BoQs)xBL5jh.cm_`fd8`2zcxE1=:~-[rr@8luj7hNt^h&GWl>Co08mp@+*e]*e]
 I)G-$1iHfxb7XG:;s-c(=v%!o-KN|^NF)I'HkbO*iv6S&uwCIZNt3=,LoTFI%Zsq@Tb/]ybSg$E_[Q4`$?|<zRg'6<PoTG4b`-kdDtGihjRi5;w@$tq!~u-
 t'gpeP@w#:?lh6.p5T*E)+JQ$x=J)A,|fWci>-3'V<+8:NeIR2f=T`meb.HOd'H%#T7yNRL88Yu4NnP|Z@6Py>5Vo!f'(gv$)vyY<>eQ^)074_4^!@pH(3&
 ~9M+-nYYF4Aga5.*'VTCjUJU<smM1mx5m0Wj6aN<K/I7,`x,;?+I#>^;+DP;f`@dgiS`hx&[g#,rL_,hadR@M,C':eWKhwCC/PAC_[^N=1ps0>Sjm>!jy!-
 xHSh+TFu$h|p>C/J@l'->`Y&yCB8*@GUI%D~qtKnm)Y6Dm;A`Agd;SQgsVgxE_Loehx:'W-6MOcqc|H|+Tc46#r_2QWaRFf$%T*]+ZfR*Ycd,Y~DY2-:@BE
 4og9|gt~$H~3+K`G@:vQb](Y6V&rxcqP#Z>ga,i5.7Kx?Ju9Z~[7WQzc6Kc+:=9Z1HrxrFD:68peCcG>h]f86,($p+RuPk6oE;tm8j~y`Qp)Cl:ukY&.N^R
 O&@e(<gla.|J%d`%AlQub>lh(|IZ:Jd<#=ekgwP^_g#4D2/[+<.E<.U27k+tH%Z8(~!WyKyU>EY/ZLeJ(-+jdm5+S,O:+h'~Rh!cpAR_8<@*vrr7waka88`
 ~E>7X,*Sir+facJeoE.`x:7mdPd7lJ+M3`@/g+[QtA5t0L<P+Esd[lFr]_eiE'V3E.o0J1%;au^78bH#a|Vn$j^GSuv=O^>3mt4r((e@IJ.)'/|>L2Xoad!
 N_Q<wGh;_dKG&y9txi*%*1OnR.v:|U*JdPh^zH<djwM4$Wm.r9%aO9,icvu4+&1hPH2k_Q,H3h9g%UM*wYZ;7@pZLwwmw|5?4Ryf]v>s|+Ag>LX6+/SN4ZX
 -7obqPQxDk&5oKv,ls*9^z,2a`)A<f$1&]i>W@&IWO03<UcT=>-k!MRH5TKC$6g`a#X*%fk(+g5d9:C^<)vao')ppEMN<hf/~L~`wegv79VvvgeK8#y>U(B
 HTjf7;WTTq4#LE`2.L3]UYd0)Q8dfLn(T3RFzowlif)Mn>h2:3:ss.rM69#xLD^=8f~EU>.cxu><:[^J18ja~zXnzDRt!72!sHf5fr%17KJzj`fu$.,/I+^
 dBXKUSPFD3C[t8/~EvRgi)(qFZd9g'jE?>Y!(X9:8Cr,cTFJ~+4kq$',*NO2HsDtJtRbS_oNEwS7B:M]1:F/bKC=l93y~hns?)czveu28/sE|x]=B&@7f!v
 kA#q9@Q(H,tp$G+i)(uU<:0Qr(Ny=U+lPVj^Vg56^||o5!EQDIJz&[sx89A;IOABLZ1sM7Hf~~`X&$n!(K9`Z:4kqzUG3u<Q#2v/Ncw@0nL`duU@5Sjl:ZV
 qp>eT]A-rgPsgr]3GF|LRG56nXSq0^Zsu`]<SaK1TJXVX>eUEwg4+n&b,1`Lk-4zaTNA[fGZAN?&FI.AW3AA<;OfhGk*PSu'.NxE@<f,ls+.]p>`[!GPCMD
 PD-VX|~@9.Ydr!OSZ1<s8han?5mnl`#*(xtSV.I2$hx0j9Rth1I<]-XR)AV$Jgb3Q/)Pn%NyEgi:j^a9|wR't!bV$9k9]a@=Y7:RZ]kx9l-KpFE[g[kJmA!
 ih|nhN0SJn[dz-Kzg*wg0R,1mJab%;ZK1liI]MtmpI;K#|tE[rt8ZM9+43aRz|j,v2#p09TS/xg3oMb8?`O=Qt0Id&/_/$u4*Mxg$&<Clh5sF'u`?25X=cf
 iVOVf2Ls@2&q,oa5=iOGX.>W59yM3-(0<Wi|:~JfZA1kX15F:/;*Y~ENFU.=D3=X#K(2+[S4&`w3N0lzFk[$)B_kh4[|DXrb[;jGV(yc_8g,~RVyS1WXI.k
 -h?_OCL6]kSudtUW(D)!~A]J$0g!Nfk2JK1i$&UD(%h28,C9^fwdcZf?:E/p!s~3iX!>jP>lc9`u_~tSx^l':@G|0,Y+]*K5<>9m[^Uzlmy0<Jd256WiOY~
 7M,01v#W$</s5WP`rQ]1:U5'xnw|Gt-.wktZHQV0P1]D!n9iF]8yH35-LO:2e5u5s>4GCw~,;`EG;_ae;x6Rtu.r_NJ'w%;TKaEs>6$C~lctEq@A>n=|(s3
 g:YP(JmT$8!#5fLo2Hh(0*sX+Xb<7uf?,*0$Jw1sJMMp&i-726v9UPVTNmh^k9ewnVuy2P]>Ypw`K'kf2-8.fE_w2hn;B(Lfg%?ig;!WKX_AaCHSO=rh:V+
 Q&(iIZU6o?fQsA>Pli:CLQ8`x~pnTI.y|?2F)jIXuM!!Zc+@w|C3b?!<u]s~rs<=`*1+#.Q(o5wTi)!WL=.=^pau%OvTKI/L'%T/~j'k*P(s[//88?Vy0-7
 j&&~#H'3>VfcQBSQdf'e<qoQvVL[ZZpWh`Lo2R4R|Jg,p`FwXj@m8kAhoOWx1=Y'+n(C4%#g'^bY<M:a+2a^HMM!hMgZ2z!)'f1P&iX$Dp]NLtvCV(G19dS
 jD$4$Gr9k=]c(3L+XK/*DP-U_htNkr/615JowRP$^-9/BsF9s]EnU'iad^%,&~g._q=AMAi2|x;#D^it>|hx;_aKJiizU[(<!ZcxgN-/l2<NBz=vxjY,I|0
 Oi[h*,Ahg/H:*Sfk?nKmgY`Qe~S1J_o@wLq;q;iPi8=-&~Uhzw`WEymXd(of`Md7)d9uR$aCjd[|+mQsf_,&SZ@qq+<rc]+z^f0**#WLxN]j(_Hdim$UR1M
 tyc)l<!IOlD(%Qxu_k%vPskHbOPWB#<>$aZ93wx+?:2)N/=[-2:9J<+hPbV8E/<Wq;ai|q#Pvw>6wL/g1QkC74htY/[2Alt1V6$yUyjbO9w6W+Hoq#!lCYm
 -&yJ~A`YWW8dw1]D7S%2U.`9|FuW_nHmBji9u32j`O9cnaJ_!ax>X~izD;CHKUYzMf;,8F|CW@#(&?g1zUV?bU|RdN9Z+2tq+Co;WK<xrkGC;E@wvZ#Z&_2
 /y7Y8..e$V1.!A7td|uMndYdrk/JNq=n2@b#VibnAaOt-<H-wVX.,Ipbc[5Ups$(J^G21:rZ:b>gBiA'#W^-<o_,j*Z+U:4XNQtr|92DlA.:^F>o].H_H9G
 d7Sq(6k~`CG^(yi+??s**BSxR/ba>Ei,75+G:$s%TJGp]'O!;Jq^fVGI3I9x''`+kMK6+A1aXLZul=?IQhX_7[I086w'JRq+/5HVzm:~C[*LEBdESU__4+y
 :$a:m#8nD%=;:l%sAwvgX*z!4~:[_fj.H:|^8I.0<X#p:'.GG(~N,,/bps$)3YR+3BY>)*GL.l+a$t2KeCOQM'J:kWld#-3lAEvYcZ)I;)3ejS<P5+#;]0%
 _VOVuO3PX=Z+K2CZHKfWxP5CvY*_K9@O$ecSLA>)v<7acFPx6$>--h2@1yV#E(9;rMOZO]9ppB)<I7mHUe*4rc3%Qez1/j`iO/yKFdAN)sOR#r[.Ot&p`:s
 Lh&xh=K2T(!Giafvux=L])<18*=z|Ji**q36']#T,RfJwrDY$H!jsvN%c`7rQa`;.p_O7L+`9f*Y'tCDNSUm3`yt8`bmA4:=XhUzu#7WIZQ4HksnC@2Vpr9
 _oj^>$0.ypi[kt81(G!6B|/?^vak7&vb[=]yj$sXgD>EhurCxde;Zjz<CjTlWJ6EAJs[7=fv~ejW^$RK5vrF<UEluRX70e*[H/NuusmPo$Tlj#jTJwjZg(i
 zIwlA;|F$)rd<#sZ#MWsShUndpvz8f6;Hb#ZzPqv>icRW4+hI9?MEdCFrL_-ywl)7O&EDbax|v7Om/%KJ]Ng!OeQIcv)'ki3J3-,W%*J(YQXZKi3[IylLXn
 &0b?>VFQm_yscnt,:|(0xUPD*a:dqr=H>6fa6n_$edtXqDBe,gK^zo;X$ZY*Naa##`%M>/R*%PpL/e__ppO9.>0yV]hh6DZ7&(Y:IfUB#G[U5;C!BC1t`u9
 #fcB#1L2Ooc*>x~?U*[ht7^m'XeghqwE2n;P^KD2'?E2N6xRKg|>&8|&]~j-Ck3NfOoA.GcSbKai'z8T7Qise+6Z;F2/zxTSbvS|n%E?<lB^'j/*|PZXWv_
 T|Y9]I9fAe!Dv0N~5Q<&zc5ke/hcHooxkw3(%VY$hgtFUmC[*sWk$|_7`wEc!e$WolQgR]rq(_Qu#j<)~J8cjZ[94!1tha=mAyqC|V3`W^Ci|wer[`PBeRJ
 sg2%FX`V86+5F2DH#^R55S$(#QYP$9aXZaShVBmb~QIUW<Jard8zDx>EOBy|gM>Seg]/K|*]uimOu(+@Ol5J*-RLBgzhpOyahC|Eo|;L7@hrR&n1eAiYE~j
 RBNOD|gg)3p;Y3?VTsa2=ebG<S8qLiGp>jN1Wq_;AACV_@~S2eBN?4'Kmn/lePS1sWh;=~kM;f$VV(n~T|l_o^Y8pR<bmK<,chc*)P]=q%#v,7TRF_uYQ<c
 o'YrP4.slQbTcwOv_K$+)XsTaPp,BJ-SEy4p2r,XAg|msS]xQoGw|/bY9!gmj=o_'xr`pf(M#7Q2F$kwTb_$l)%H?s#T$6Xn2I+>+3HmEbD.U<q-k9?y*Ga
 OjY6oP(HuRF5F^G:U1sN|@?/ghhl$T]lh`EI#'nxj#_G:=[&BiQkNJA]wf;<aWTJ..ZZPh7,Js',Keh!a#JT]SyL&f2SSis-8dW#k2AyKN](hMAeBwUd(wF
 *XV2s=t+n.`V1!PlwOoRJq1VOsmm_y/v(tQ,AI2M5McQLmLvW6l'Dd'x|us4OK:HrROx|KRJz3nkW!>S;2Q*y0[BH4Pz5m$TM.pI4_n7F%@Cv481OZ/aKVj
 G-ZYw,9lL$j=o`,v7sa666e8by6#t<]c'Wu(ET+^@r?&>7,Q+`*$43^GXa*4e=6J)+J#1mx9s>(4F^h~^UA-|++z-dE($Oz^S|^'W[`fLXpZhZ>PzJ<*:(m
 :,[xo3]VIUpA=Ba:;/1eusTHT5FO*TzP.;gMe%DrT7ITpU][Z3M^_ygZ3XIe3BIFT<8-A#F'(PYRpyYLJ0SQ6D/jvpc-R3$7YJ^'XXap(dVY4x)8ZfeV@nf
 R*gGwI0e;D*3bOI--ryXf[xqj#stP(_sO@*Gt&+S@]~lr;SW;C3,'uo`Z*9QOkNt.x`o1v=ZNY`62I`#W`a2d5RPzGX#r^NrGF@mxnUB(qv>`Bvw&r)1W;D
 C:ERGwq.a0$~~'V+~Ws8PKQJ9FwTK&4FOqH*1yV&]6Xktr4!d@sU~S/7]Ue-M-.m]RgHO;&t=[M2NBN$KGep3?^eZqjyNI^Z3QKN%1m6Ub!>j[]1D:T_(6E
 76_<jW9#@<BXX:c88sPZVh^.>MbOdMW[QlW]EVh%O:[k~sW=hXYl3$sP(o9+mAH)at(jHd!D>VNg9[|9hq$D`M?.gb|jxaXAC63Df#]S]fWSb5a:72Jw8Zw
 wlUE,35g5=_q<sg/&:.8&~?,nTk^l9)G-j*,sV085V5A?mP^a=fohz<Z+~&/p?dz?U9--z+@Y1x0Ey9FZffthIabr~u3qU#H8@t.fH:[^':c$[kp#`yokB[
 YK@L6SxG>RH.i;n%Qba3=PVD%-#*(!p>(W@d`=-<WEOD=El<K$j9.O<de$-cV]ojXT<J`Y,q#5HC0UQWB~|Ko~p|Cut&St1+/8dLZ:Ifr6qgi-EPLtNe(8T
 |U+61N,E&)3,f3rLNBi+hIWd]cghnkgHl'3/~Az?)kXF]`f![|X+_-T4#x~it%%&>:Kka|QwX,AV$!DwO_u3eILa,^@u<5>Nlnzi1tG/nRAbljB5yo*Cq`(
 TC!'9/xiuZ]vHh@_W=E.B4Hm:C`SZheec9^,m+pA)?jrCH]u0f7J6z)1]D4M_<-~=oG_OKlr-V?rT_|3ojWaD8@FS-2x,W0IoI,~nG]]&b1g+3DM)qt%Uj.
 SoV9Ck&BwpJ`_>rBMT8@?NB(Q$]dM!1%9w5BI4>KiLFS-q|s:/nPS$Yo*Hk2@+fz2~k,v!%o?x(x^$jZux%zp~V_&ZmZeJ4d&@ZC&!Mh49#t3.`](,p0?_[
 [yy+-u<|vrCO?AZj]bRh@1[ao>Mk1XT@L3)rN-eBt&]$XWbG)Ilu3Zf=[5Io.sbA3]/Y_mcSCpvpqQ,8$qZs3i&|<k3n>WAf|0da7ouzrrF/Y_9+88#yQ|h
 XByb+h?T#8-Sdx~5a/TmBzV1ABpYEuEAn:nEP$pgQvmJ;NTiK53hGe|S@=&1[`I!kz`5;0kBfV67JeD=f<FlBUb;HR>f0&6yK(zHRR^FNO:PGo%blU>)pQX
 /y3S.*#WN%qEnJvEw4qEjMu7zWJ2ReaW<U:tuBNa@2X-hGP:;YA|fd+YIA*XxsrTz)YOcvivbO*b2nZ:#nWle-b[i#<I!iCq6$@@b,L~WHsV''Z.HN+-[%V
 .fT?(|7>Zs:>+/|Zq)UV?%H([2eZkC;gRdF?KWykyg,nGz-#>,2xk2xK*Y7dr;*3;)RVJR7[bg'F&Bt**~KmL<UG9;~f$O6GCE.1Q.pm`Ln#eU^3XKC7,$P
 zd|#s`zQj_S5@1PN/tE|Ee6^<D;#lv[iMM+ZEeK$HB*t79A?k:8R-_?j]ZiZdbN(&a/!gC7*/ssg%+=]=U]ArXaBzX+hhbLmSyeE(z)j)hfLqE;P78yi@V]
 @tEem0K=<:Rl64r:Q%_,kSL%_a(Jwsr$6Xo@5|8VRfSpe>JdkTX4U2;o.tode[R^Mlv~*tO~6g*pa]k5.F&s(PR,+tk8t8Dv]]kE*I3EswlSZM0]MUd6w3D
 UM](I:_WbIr%4d?+(]adXNYDF9hZz&ew!eQuSwd>#C/W7Q8nDRC;N%LPTT&,PGQ;X8=iAy!#[M=&T/hj>aS7-RQwV%]J*Pl0QD]p>VpqG7kh@8WhK$B<8%|
 .vc29c[$[a<D[~O(tb^LWN!UOLs1B&*l0yr31P]g<J<D1#i:@edKCz@8o`<^])&Nw<^`b<PUU-T<f5N#%umDhtZ*?cYY#&#f)b?Jt>R;[<$|N0V@Cpgqg(^
 2$4(3|VAR2`TmG('4ZHbZuZ5!S!O!R!T:*dNhk52)nxf(eH'q1-LXx[Q@L;w=w:j9d<lLIf_!@1c=Jr+_avPm>I7onVVnf47lYJ]-TEcq~MkQd@A|HUw`V'
 |Wrgso(I;>!JCsZE#k&Chn_c.<Q~&U/9;Fg[n1`jn&5Q>u!R>a/?@<x4E*=dsC]Hq>*Qgr[2T`V7kg21Zh:RMVin>1U2~wD_b2.j~KmH.s8KXz3!pFei]#K
 )lM[0X:hW``GEHlEXSWBzFB4okd|wf>-ux*-tT6iT1s5i,SPfD=wt>:kj+dz17hdW14V@J:Ev-^`_>3?ueZpZAbG,42G~lI[|FurkXc,M'UUGgABBPH?x&Y
 sAza.3bEWI-:@]VjF?N4,C|K@Zd2DalcY>RHn+WHXkDtq4DM+/T-*I+5/!=vnP%+-$x;TmkRng*1Kh+vLaxd-BUISxNedFf:'I5![wTbS8CgNz%s4S/amkJ
 V=F?0<^jWw;$RtC[XCOMCPv%/zf^nHBJ:uK_qPy,?x7e@e_o/XA<?&b?J=EN=!A3Yn?-!x@D^ZrdO3Y+*rUUIgPDYQg0ZhMO;wAmb_RohwRZt^*gkl%lrDx
 WXPr'h/,j&^4#[uB$d.Z`J@@uR#WUvG]8h46Hk&j#^cSr6.7>87CNYYUiwmOqx.d;mBrWVFxE8]|IGDq!Qc:cQ.j?m?%9R-:;6^f~rG+EwjdyiGGQXB#Xg#
 Y%Vn,v);a2Wya]^9]`FdqC!WE-Q+Z:Z4M_#QT?(R'j[)$i=(/w+oT^`zJo%|rn]gy'urT.B:l]@7zMt^dDg*#vL]n:7M1$E0(]]Izd*M;Z]O-%LM*VBS39i
 E_~-tQ*[F_y6i%HPHFp!V0u[Tr$1r|@mqHq-A4jI;v'z,2(YgWhLiXCnoc?;.DV;aj09!UP`w7vMuhd1flJ4C8O?0UCdT8UFVo-6_H-4cl5^;*$^c^Do&eU
 q3q(ij#oQ^W)cCVIa6T$[V'(9(-BNuX0t:4EG8xBZKm#$^Q)Mu[K,4l4i2xbTd2X[+;sO^Mj:+!f_S:1A1,dG!9zcUueJm*TdtqJIZlA@fk])R<BjI6P+*I
 _L|s9>fD(gw-q9nbJvPpH;%)8WN4l`4%c:|^px~5^+aqv_+x0Zq(Vp^Q1p~Id`HY$T%b<a0*t+/1Kp^L|izjh`o?cg>>>nU$ae:q+9WkJj]>+JSn.MPeQO;
 rhqMMW(U8=BX+D`N'3U>_DT'Q9iUsXi(Yg3'C5.Jr)$GB:b<uq)FgIFrDQ.RI|U~ytO6j]!,hm,99^<#Ki'BIjr$]zuK9>KBcE+Dm2bB:dWwr<uoN=zz]MI
 MEHTvyCAn~9HjN'lKkuwCKRJl,'P;4dn|z%v;['zDmq~i-k42gUdoNEJV=9L%6e9q!DAMZ=kv`:tblmRp7aRA*:@M^p]bel9b-!Z'T*kdjJA&0J>;x(0d$<
 gtiOe<tZF]yr$wzf,nF~(Y_XDnoi0!8gLwWfy$hYh)D4`oYJpYdz1WDS>bX+(Wt]oJ~?MGGG,F.X3*N)M?-DYIt:<%WV%|uaRzd$#a5|7*6!Z$@6`@G86,>
 ;fPo[H%P;AgNruwSZuBkd>tWKoP$oMVj1PtZs=Yv;.GFRm'K5+rl82_4_-rW14ygzXLxaKeOIEDAZ<1z1&ujmkl*Kd>1YYsjbv9#GzjUUb)PcP9j*v+V_SA
 [57?@[EX@^g,pwtg!<wUxW++$0_Av/DRWU:n|lU.E%nf7Lu+>P.`-SbFs/I:5$mTl65b=I=KQr#nT;fFSFKND+*GxBDN=1i35?['QLEUXq?ehZ)mA'5EPG*
 dzi3:lx<mT,p2pyU-(<'cfZX56116ph/]&qC5~WuI`AYcf/zlet2-^'|2AjPJ]t$W%L*GwD)e(W_6H?[Hm?cB^dSwibJ2&gz9&3uN9<^pTU2*&yNNr|R!Kz
 LQScu=fcI3W'U7sAXrf*sOg/$_+#l=9IMThrR_@?sr^H;NW3y?BIOwA-c%$(asH;rXN`R;6Am2)#_~I+75hJ4i%#cb1)-R5gFN1IEw.2U&G(wVxAe3d>NjY
 /mgLU)kSe]SPTw2?Z'ODH_/Up*i-|Ak#B=%l6][fU+gp!_@V;)[d9ze!V~G0nfD%4lE(L'T&Y_r-=f6=$f1Tmc<pqI+//TpMBB!>&AZ8y%oLD1<YB1,;LmT
 nfhQ,Z'9[*I3VrED>QR'pSV1EXalTm!Jv:j5w/TU-v>]u)AKkbn0N*%@W/1X#ujBcjZ0[RAKQF|&lK@X?GzK[%45`gxIj&_!Eou4yTAZUO'KgP=9dWYffl0
 ~2+cz;qH#,?j5OVrMEB`W_?nU9b>=fFuW%0'L;23%XF-qhfuy8fa9ce(lsQc3&P:|?ZG]'ZB'/0S[<<@!*L.Xk?G3y`.YE!H(8,=LK.?:cG14ub^^kfw^I'
 p7)5em)>jPaWRK%Gi[l`/uqB,>6DXc]kxEjwNaH[6^h)DLd`vS3.Ae:;_O5LS3S0#Y=g1&sx1`@By<,<)@]O]a,wMc;8ws^%8:>oBNjp[Q^e_2y.XhqK%D:
 o<%j6g/NG.XJ!PC=U:'(<mCG]5F.k*!2$Q^GL^pV^/&=?W>4!AKfq.Yo:%UFQ#hA(g0E+L+~eCG&c[?]!P=vwhE:8IO!sW+6Lr1~f6(qX[H,(o<bv5#,1z3
 JF`AS;Ay1AJgt]5ZvX4s.y1a>dy`Y)_E@#e36[o<U#cy|Q~)uY8<47o`i.66*LaN:7b'NVPsp3Cq9908r(zn<L`ksb?W/4(2G_Uv)o3dzZ&,?MVtO0?!Z8U
 w;sAEmksNKMG]~AH/c0';YbJN.1hE.Q$cF*%FXKl>By;5#MniyuEEzY.Q0c#'/6fZAfrrmQZnywoP>.b4i&CC4`2z;FM.=fml2yZ!~nWk90u%YH$,>I:YPr
 (0'!ec$92Q<9Rn6h0Wa?v<2egWrz8-XV~eo+;>FK*]g-Qij5uZif]/+/YHngKB@ExG&|0f$OA'?tGKP3O)My)(Oar>Ppc)_J=jcVq4u3Wpz8bnwhMLp|i[^
 [Z([T=n^_PQy,1p>ef:=9<xQqG8|@<JXw9|82NzhV5m0h7W_'u*y|L3J5mq+9TUG+%-_p[,NPJjvAx2p<ol5w/4!<XievxKVj|uwxt[wHX7OTp2I(R1lwNZ
 2_)6>!4h&xB-&S)fy=>x#qGmU|C&&q>HeT6blfq;qpH#wDu,Qic9a?=S7vO,Grgfw&9w.Ph]|fbvXW^3(Uh-@w1AqacU&wW*FY~O5O[.f/hlVL[6J0eBoYZ
 Ie1NsM*Aeza0!4'dAQnV;6/E6#;/Xf>~[dwVZ&D5PHd8Lx;>3XK[Z..)HGCM>`ZL~/dpta+ok7[Fr<REA=sTz^,S=`]dqYvf5R,_@;aR(J)!<loe%gV?y]#
 92<jUnPBKoC^ubD_B0:)1D3fQkHaZ~^<)*|^iI'?+PS%|r`UwPq5/[uYJ42]kUtyq/,@AdN<;]qCd(C!~W3[xl~.|+6F'TWrK3qWCru~ufx$fa]b4w:anV(
 KM!c4e?QX1raO9PzJBOl.+<!QR2$jz<ysk3v&7[g~7HvpH:py%)mn@jlU[QNDERJa@V_:,]TU6wgsniXFY0mMxbip#<+--RsX(k#_60c<DSP+xy,f9A,6=T
 g--shjxW[9)/%So<]8)/swC*YUAcln=@w3hy^D=4I(X+H9J|3.ZE/@(?HFCfP^f9N;]Fm7k;7bbczzD/;u/~19E38D%hDD(/8g<|J^aCRlxV#_BPZ7.Tw!S
 *N_+pr@*RLgtI2O*2z>'do65CQyQQO9fH|>86/U5V5@:QE:LC)4z3Xv+Qt2dH30]y'Ahb|mVqT>g%m*,R6/P9BT!-P1A[1f,8!OA=I!bt;2yTlQve<dc9'!
 Uu7|&obYUX(a(=i_xIFE$%sR4yCJC@xklC3A<rt.:IZH9>]8h?0qfa69ujAvwyJW31>95LzSL.UrJ=(qz!*RkJu=%Xpsj29V)QvdYR;-si$ESd1fOY`.WoG
 gEISZ%_1Ed.i`5I^U?Z~X7.=j.NOJ%YVX/sASjcRD(Mmp,!'twpRCb]x74n^*lM|2JknuHb,q6a4Jq1&ARg>Z~IT/K2z0=mMSX2KOoCg~,L0b]uE8LS*7q]
 r#vPxqO)5Ym9m4)..Kf^RM0r:R|)rtaF[~LPpbC=;!sWMI'^O8OfN=CU2L>b5yB!3m>A+'p%BeCC1&z/96~?;&R#w)^X5t+efR(fU=reRUY3oBGNJd);7iM
 ,aH5]3-u9Q;L5m5qRBw5|9VKZYaWD7z;4P/_r#vf-hz%9@]I^rr0NFf6giA$yK~|Zo]St5ehUa#^!HNMs>|J9<]K,p93Xy.v9x/#b/RUTA_rhP,8/XLn]jU
 s4CeDWP#.NAQHmI:K!B;$7W8VBUwc/|$yA5q4<C]Np(f3'vzD!?.p2#<^(ZF+b`/fx.H8VnT/xiIpPLSrR'XE0ZpHY0hbvssZLi36>N^d?Uoj|(!ZS8jB+J
 gl7mw:nsgRSRMH8cAA<ry[8TLMzvxCwydMV.7)f24/YmwfX4xrk<P(v`xDRNVS<BHn#Z&nT+.xbMeTEw_]WiE!1`OoUVI]y7&T%#D!uTQjr_s9~b0RCzKnl
 xaX`%sRy5f|<&>FUQV~xu?)D0'C2anY(Ko!v0OH!!bWhbB.O1#j`_fy6Z5M_ti$PnJ7>$P/50ua]]beo[grR[i,?U*`?yR+b-dypXSM'l2-weCfN$kN>ybB
 d[?^wR(RqcadCD5VOXg*0y)4[C)r$j.zas7Az|3sIrz+Mp0!IxPFn>L<_foR.l^^&Vb'In3_=WcdKV1@pXF&t2yVGV+y+!b$LC~goft+FfrNxq^)5`nSgCc
 aPvdx?t^k37#xvogL=i2?<h6]/r59:68s/!?.`xQB@Szw|&|5~f%W?=Ru:1]hrUl(Q,UHOut.4sut,?>Sg-pSQM0i6elRsbf+f5Vn$tW0oLrQ]w`,22i!-Z
 G%AX1Wj`$!y1th?b*xtI.|Il=gH=v1MtcJz,)bexmt*OMMm<6.97@vYD34qHGdIy^J`niDVpD|fAQLJ@MFVT)53$aef4f@VE-b<X*PO?pM6lmo1(>ucIsV%
 `lmBhvs*xF$z'.P4|0Fz.C$U;PT')y2b,=hsaejo/+?d'767SG~r3a1Zt_HZL;G@5^p+X5;sT=Cu4F<'PlYnA>10=5vKZ$(`(<%Wq`U+H&dIEd@S-etz8Pe
 QV_.GRb~cc6hp_9DKMqj@ZkwoV=(SW:-_9]n0s5FG6rno`t>GGn%Zu`pKF,CA^MC+VA9)II0&M'u[kr).|y?l(>D&W??2it-M0a/=+E-!2sDS1p>PboP'Bd
 m;*@79-Sv|p1)Q.~HFXFd_ExQm2[K:Nc;KFL7g5W>n&O!K~U1aRov0VU8$;fw8S]x&!Q-DoJ<.M&74S@YD4^dKMk24Ip~frRE@~,`HLw4vbx`g#>_gi>~p[
 9!_&dhSo+9J-#ib@vcs(z63ir.$@pt~l06sCBq5F8L~=s),fC0Vkor|kv|iiB3^`L*9>>^];nkTcp&Jv|u@Pgfq9]6]-/qEmu)+].;f8DgmN[3!hE]&niPt
 Cs+s:T[=(S(3;j]P%]0O^9(W9P3&7ttPp%uw2k'DCW^@.#w8FStw~$_Zc[!Af.k|VC_KBHe'X-tAM;1:RxsnrSGSL2C_)v?4FYbFx`i#J]3yis'8>icp7Lb
 )Fw_0.lh>Zs;N&b#w*ib#@2(]2ng^.3?OTi%Rj&,>/q32<,>nQ3O(1RE:s1b)Ofq4foDvY?bj1$=`Q82d?&DbhSpQckVY4F]FrNg5*Mw.2bj8RzZ~2L^<SR
 '9jCjY$b?7eFN@Q#Yl_<DaEgE$b~R=v5,5wBe*.sj)#Z(*wO*%cJIE(hW<>M=o2wh<EPN_h-ai&GH+*BJ[&bmMUUHd2IAzk[QrH>ak(Lsn!4S`UPMj]t.LA
 ']T1yYCf#WHyK`41Yy-[sp<a8?&xtRr?4h'PO2A9A$l9FA^lmfY5SyspC~vibOF#JFlt,aMt?o&V^Gq4TNZvk.9!aZdk4X]sG;whIcb`5Z-%I=p-S[[KSwd
 qk*^)#NW|wg&z?Ztk=[.pNH7w*NY0=1`I'N$XZBU'Q.lhFqAw-h2vee3b:owt67bQ1tY_um*RkH@fU+IBTj^Gn>o&]BF@.b,|M%d.:*_k:s)AT/<sa<kgR:
 T2'w~WB&fKj*;fDesXea]p^mCTsb52>T[5[%k6Q5TT36~pbnP[q'-HrRHm|5gpR2QuotiHz(h,1`l8ykmcc'jk#LN[aqF%?W#Zxnc9Z!(D&S?3gm<>]'>+8
 -2<Kn(Nt4dWTk$t&iqxvZS,T3-Z<fDaM5NwEn^i@,B/^4>oh0jCge]'+hU#l,+gwL-o!KUB%~hDMLRr!(n]S7d:l|2?&PWnaPZ&@<`O(9$Ec]t(8&a>6MvI
 +/)/MsxemWV*oCRIO&z*=.V-s'$#b)apAu|7@B0+_cv?^E|mF5P$SsP*L|>Xo`T1`SH%kM$K%-6m>c='xsQVY)@+nIk:n*xd9Y#.DFIt%.a$G`9MNsw,b1A
 9_j_,:!.i8Z-n)^7(qNpY~pAK)=+@UafyIY%gIr,]P:1R%&*2-!SUJf]pihwEcUtd~Wt-q1@OVhYR>~-pC>]pPPl@`Ba>lWSe4tOlOG~MOLmwLSyEQ<^LeU
 gjne[;zB+[jRHj=^%6tRY[uEGq[FlsJ5nV~S@g0tq48e0d5[AUhzaO$jc=zB7&](f9kR8pks;vlNx?m@hO>QJW:Dkb|%J2Ew7G~I`D$bJ%AxZ`J7.[H#2N|
 5L-D!AN(;F~pB[Jas(`$*Z801Y``pdp.OO;WA:2c7mIRVu=e1u'Mh)5~6]1`t&'f_KUi^eE:GW0#?Pz#gyJx#$t#Ho3(B.8M^YU?d7L_p6]MRIVKNCg7:u7
 @2u?Vl0DZ3zV~i(p?&I`u8EKSlkvFfJjI09.@$XC'km~$CB>g:/j^2emeKC',Q`XMkM@4,'XyFK6dqaup&+-%VnnLjs2O`;?ue>!NGvWY+vs*D@:b+IBhWF
 p.&>F4emQ'~NftO|FCrW34Ic%%|OAYze%[TEe7=/B88;<g=D]SBX-OWZKiHnHK[-BOo[r`gAS4+0E8vPE70s9^O6!wUx&*$[jAJNf5EnmQ2T`L#u[>tv$8a
 EreG;0laxi/g>qKkGHI&n9NG<B'|@U$Kp,:~1mWypGj[U_Nn0A2.@jq7dwxl3nK8YROcCBp$D#Rk2y6XIV(lc5e##;kxpK2gumPKp+s9.r$i2Z<s'mnScao
 0nTQG)n#83S4LxV[?Iz4:F5IE:7N3]EPfLZH?y6&@K~QKV[6uqnIkHKH^/!yUgsg(Ey[,fsK?)lUX/|menHBl):D4SF#6-h]x*pT,/ic8;Eb<XLzy2DaS.j
 D*vMk$f#UA:?,M(4ZuhrDc;pw6QT@po9G'f?#(imvU'TVd>fwKWSd?nWgH;Y`>r;)N5P54Q_X'>YKr'Cy>T|r7GNo@%`iD7QPum*>@Rta&_n&]xej9Y|Y,H
 $F<tdM`T+-zOh,76qpMi=,#&;Z0Dn&nZ%;DlM_0?8>_SyjaP!j3yPh=Z|w4rJ6W7C`lXwyjB[l_qWN*`p^t@,iW6fMjSWSJ!CasWTj*D#U0Trh5?SZ.j:AD
 Rke(Vt:tgUv*AGB;nj|N'iBh+Kr(ur!sP7rOD^]*#mLSDuha!#?X0-.tos!`g^v,w9Z@2SB$~3%d2dH@?8aY6Ct6SVXOrUDv!5SA7A13G!T&gov.]X)>dsE
 >=]q+q[59!]g%]C+g4Y<<EBzU8gKkNYKR%=d.V%[sl|R~)%X^PJ_`kyEb8BPOcU>K;daT,8VPu]O@u<T)1sr4Ka<|zfdI*$tEhO/<o]:+c2SH>i6rrD_acE
 ;>JbZ|6|MXqWlAq1WQNhMmwM8s/J|Y6.p`UVKu#8)zxJD%r#%USheJR?h~IM'4[(Cd-HnIu5ZBcDuSEX~|?z`NacVj[oA3v;d(Vg(c1`)>oW+$gJh*B4N+A
 7TSxsn>8n!y#*p:G?d*&$k|+3e=ecXds^b!-'8W;|:#z~PY9j>7/:X[MQ,z7a=yvi~:lPFV>fI-bwvP^y`0bBQx^(YrG;NFJM,?`c8]S6!c2ADv~|C3Y.6W
 hQD9FBRgVI*iQG_ru7huW+'<QWQ6sFOb*kT/mq1+rK-Y-%V`1|cyw1IFUf]c~-_@JJ~7rfRQ|NbLgfKPyUtBM8TKyiBd!Rf),~Z44b]`jd~G14|X<F_UGON
 MK6QUL|H(%@>4F<-`<5!rz~5qwYkfTG?GErZnNet4LeI=5Y'*7f#^&m@U$2IeK*_+SnagkGj1j'T0w:BXTg.4IUF'Y``MQ#t|`]4!]!a#G)POT#qp'Bj#s(
 U$X1bsV0S1m+k7=bF$GB2u3Ubz~!``#N4kR:5_T=67j(vug*h&g|Ka=~,8T(U3+^~i9-([Vf@Frh%#AB@itAoP8_+(%SD[$Rsb;t1vX;iT*qk)u(DoFWl$A
 T(E`o/Xva[#_D<wi8AjK!VdB2?gq|1bGfpuyAn1'/B)Zdo(TI;vC&[oDSGQ8IrK)froGV=`$s!NxL=4>ciJ.9QCMdrF[^Ca/wt&..#C-Wh;2wl7JmQCD$7U
 ]#Tiq*3]6E8+zD<2.L/Q7*4ed]I/JyG9NSaq[@uP2vtZId|9_1E!<:&u?9HKM/a$0p3%A3V8/[OY3|=`>a[go2^[E!ZdZ5XyPj@2F0'0f:_MxYrU~2dVx|`
 UlI*BqG[0GEW!Q.hQcm3#,<sUZ-l&BU@V8vqmIpNIz50mKFDiu!x4BY^>=^M]/<vdk*-]@9+pjw,oi2F!=39=?2|1c;[>C')3wz_P~TVfhd(Ie2rX!+~TTN
 kA2U''X,ig&9km2E/Ko^L[PV-JO3+g^:By.y0@Q)|(iYwlvi.z5U1|X.6Vy5L&CyC@]s;#TE,JhK87W43]?d&L]G_z>)U>7b%PqQ&X|x:-|Bld-.DCh]6EF
 EyO3TM`r'iB38P*(4Mjl):`~Y9,wn(J~R1SEFT)HK(`$o)hXL|Y_e#iKC4b!@SlwhP@t9Zr[?Q*XYj[6Fe6)?sP(0z,><u!+#R'_SP8Lak5Zw((7NR`)EWe
 &-Ku4OBi8w0ie3ErT*Z_-2'iH9GdM`PD0vhX'uahS@U=pJ|c*&],,5MkPw+gsWp8*$$,j,28xNQRgi]DxT|K!pZb+<m*&RZT$lR=98ne2CsT(EA!x<<gd|a
 v%hA7l5u1#Wyj^D.;,zO,@Fq/iL-&tM1'^*>HDR~CH>+|pG)Ce-i!<6*xzIItr~O'7[@%_O=ELaRgjH3C^$0g<>JfhO#D@iq;]vXb^)y((3sQZbkxP#!c'E
 YN~blgeiz[Ay5a/kUY9z&gp?mqB.]oS=fjrLe>fbI52&d=j1SZ_:)gl&fB*#S1|.*=nfUnnf?X%/c1~e[dUQ?1rW`bh6=@j~a54I_d[q#14Mk[EJX$GaRq(
 -+Cu2C%X&ed,%]BScTH(Uz:aTs,[^&`DJ(V0g|'n=,6)TVR$['>~?2#%Z1)&M.|Z*ipr$KLni7(Y]Iqg:As_52LlJ-*En+eBv$k;|]ig((c.&E_cLtkG%1=
 (gHpUWwry#ylIvfWO:C_qD?pZwE*v&z_kmY~:aa^pw?Q:e]0,hGdhY/M[L#uId?AUs[KaZ~kW(SnuHxkNawqT<,KliH^J5`Z,CK^3'ujpFa6<RXClVD6TKE
 H<CT~k,*MI+s1r3|Rx%^~O5&f2rn.f39gW:>ue72@%I:d%(1(m66o-&76a'$IJ[0rUP`*Yag3HL::J:%cg4GLsS17Up[jJ=teH;D>Qi?f_VFSzi/,l:X3nL
 LHNUjV=ugdUdbz@9_y4+3BP<uZ-mrqe:er+^Z#7-rNtd)(sn;V0+WMR@1*f0k_)5AAUhU]0T4.Jz)idjDm~0swPIzs*w:.|.xJX)?WyeStaioR>1QXi,9m4
 UYD,6*;gRoOxfuH'Sfb*xES<eke6]=a<lv-_)itxFQ5Ob-YUI=27twrAil1_n_afS^)7v`@r2g;?(=V5|%i0iOMOD#jC&Gmf-AC(;Pn7l>/@0Kggs:u1_0c
 5ve|!^_=H|8@ZARZvLflSgvG4dAjU>o85v)m^.E:j!@Z[6mMwx]@-~DP;b#;Cc`1A5RVr!eE?KqOA>$[(dW2G2PPPIng81vC5i5s1'7M8+jY+SPC?tD`$'J
 h/,JrM6Yp.L3&8.YRA%bT3GeHcCtd?Q7;D)Se@i,*!E2l#d>0W>2>NO;EbQb9crNR:@rbH>mU1=A-q)0RYd[ZWe6G*4^mha0gydgE2m1tSC*tjnp:|A(9.x
 ]5A@>DF+ot.&Cn4=-KH$c,^+?Pnh<#Q1:u_Zki|mv>ziY2gzTgJnL+g*6:-O^#U!Mj!LN:3>/@X*;q::SU@PrjByoyR%@tcGs4t]o5RON,:Vb[weVcA]4DP
 grj;N,J2C<M-D1`eW#G)B]Ubik)oh-4V~W_/&_LImM[2'8GN[<ZVxSA%wiW2CRnp&v7V5^10m#WSxmL[njqu|$8=!5##!BSpALGc.lvjQ~xP:@XjhXoy(<P
 4Repw4DBePZ6*x;bt<HCR|]ZT;o,Xb-!*Om3z[%^!xvz<4M*cXGZq&aGEQmP~+@+>ZH?|e]<eMfYoW-n[6Z7L|-7gVp*?1n,uzDp<|1a#*WT:V~GFE^!p'$
 n]9?tMyo:*TTRtuAPuPA/ZbDBJMCZv;Q^_'IJRdStl#wwC&f@BVBu0Qo21Uluyt6OD4?c,2T-bs:Yu4<$i=pPj%o&@ER`bbC4k<P]f<u~i2`&_S/ZxY[r7k
 n,:u[iPv%~i8,5<'YNsQq#'Bq<f[!k+lA7Ho:GL9?*x0j)`&7km7yA#q'x^;(Hk!xx@_k83qqXD1FfiHBSDc`IqRw%ON10o'`Z[wJ/^`egq0]<rtpya<7W[
 Re04Q?f5mEzpP'4HGfqwx0h:_g-2Wt>pg,QvFk:eZw[VIqum?NzqNeQV,'K9@['D*<Uw%RPQM?sv7-gJ72_08Q6yc6p9s<p+MW|u`g.XNW2wr4)P4+-Qx-Z
 [pcUxj(Y&ZT^g0@0lbnHNUt1;3x$XZ_mIcc.`DlFCGJhsE$xOYPD[j=2L#Rs--@ZeIT_y_du2!^]vC_QDpthqerie1eyJoc%rBL+w=#EXl;]HYb>&H(U>9v
 $x$'rdBFZ/(uhmRA6PvWnDZs:HodEC4AZANU|kScnNS]Dt:~j/0.m?Dr;W|P(.z'ree?H0O:hi$?D!2.GbU3._-[:r9,X_-hhf1errqKlPD$wXV0U%E*Tnp
 K<^*b|]3B#Y-7#4@YH5bhX`AY=X8Ie-7:2.kTtFx:Yx7@VB_z;PJm-:DWEXlYJw!`H.V!g:mE6cInGnJ*8P.FA/xA<)T8XYH6d6fg]Qrg9Bv4-c^QrDGc(^
 l1NTS>w-TU5r6<Sa-R.lCH+3;vO(f(+c15Fh<!D.IMWs*3;M<g,4]hnd>)P#L8/X<S@x*=9%#;k/,-#K1@!smbmue(FW/]C#hrp%Qh:'b-%m9iE=?Pt?#iD
 $dj4B+Hvfi#r5#,5qFdT?az'(hOCu=q1`T[enwx|S&vo;]wPTHYCpYOo)8<|R4MoA)7KBOO,;DN2U[UV_aY'(.g!xJP%;<rLqBIbR_`9SsLk`*JU|Xgcq(s
 w7wgO_(4H*#w$unM2J'WS`[Qe&sUYz#i>4Up#UNR55I143aL2!'weWyh^;MojUyRo9H>'|JFjc6bDXwta)a)GL#~S_e9dw`.N<Iq?f)liPuC_iw<1IFU$5;
 _7HP;E)S+/q_7|OOZ!x@.w&q9v`:_/kF[>ge]S12yH`8cA1vup,0oN@Nwvy1SDz(LpV8d/3'=07+`tbf]FQiVI#A>pf[fW|IMIS4D:-X3|O-|lK%#(+e!Ix
 9*)%)L]p`cy!qZ?H6>SeX_Xtsy<SJoAXP?_<q9JHhPoP]Rncf`='7ROm2RNDMwCri.XmS3KBT8PYDgJfBWg|-|Xn2g(0&3@?<W.V6NEn=TvxY70p)w3Q#T$
 |LA]6'DWD!x1WXXB3S8mM8G?$:UlMFZlr>L'T||2Qa-D0&40%o>Dn)U'r';nM,nwhw'Kk~Rx^J8EoA_!46[D5[eR^Q28*@b.bOLAL*-zrf(,3/t33*c@|b]
 i1X|%Xo0OgmFbu[)]y?2:/l:)r-Py])@2|7@)gkftewGrwmUWgI?fnN<e8I$|u;NC3'N.4ymZnvNmDGb?poks:m1(vK2!uf,w-6wPQ%+>mAMN1Sj/^lVX*7
 k0I3:-TV*]]=G#xF5y&?aZ(@,PNkz^x/)V(~co3,p'|$V=pgk/0!@jFYAf8(#*.<cqMs5FCQ=Gad>t0.H&o?mU>~Z%|NbUmW1D$!/kQVch/sd)gP!OSr!7:
 9KSbFg!~<H3Jv.%=uOS8|;Sd(saeMQSQmRz6w&<PAE`f7=?pRi&dPG%%<fHvFM->^q[edN'-49)40qv~5qA>[5&,%Fz#+|)Nae=@ha1F|VRR])m7_y>4].X
 S>/SSH4~RilcbEiak+RZey$q;$7?aKrBAXm0z'[!u_W=2(~Fm7~q5ba#x;[h3Q^[^D^FP#T.ieD~LQs3;KrYn/+W>f/DKXXin~;6Pi`>&=BwyJ%BUYh8F;r
 WWXUiS6SgP1QVJUM?c:-g:#(QsAI+>-s<R4=QQx4!N/|HDp+9DsI<1tPkEE?0*uQ+N_wu!aX^ybpy&u`/9w5;&7v]9gZ<goLD[LJ~`ew,%=4/E7bO-Tla;m
 ^;'aTo&vavv'w>AI:0J_>@Wy?Ghb@9E'3noW:e7[O`FA7u`KLN0X1L;73(x*'50<M2q|?zqqU@+L*SCkK[k8Z3YEs.U@M*_|mzKU3?LlCWxJ.=CKtrL$NT`
 pUgm)[/*gS7d$NP5uqT~jg,?P&|;vA)J7Kmt[9M513EZmsEPkGy2$nk80b$qvni'vRk7!lkUy!b?Jkv0A;yk^@l(8:!5WVy`(OMy(q[@~@6FI#_^z0@p!PU
 403S|~RZCSvjb:eL|tLs<L?0*O%LOxC,kS(lpT3d8]rZIhFs,|Nhra3ly!nM!>F%ZU>=P7T;Ngif5@qBmwUg!d5FKoI)!$<E%rTjlgzS_2xCF?pqVQo/!Y0
 Yv@a(7jN]FouI8&Bx)l6%^3L+bE8m3'6s&wMz.%ECs_R`gfND.t75VWsb)#FZ[4lcf9E;@alq4UwtAsYM9'b!MwwjfkvFKwoEWuS%`K@8ESM.1G1[8~UYdl
 N?uzdj-slCaQ)B^1p=*>BN@o+y,03>#|^-3S5W~DWe[/*fOZVMZ04R]g7-2OMd0o-EFEG.3F~?n=3&Up4q<`e;dl$2*UDAji'.$PLQ*:^_HOSule^-1j7Re
 [:`jMg;ZJ%!'`)p+')pb?UdNq9du>C_UBiZL1P,&C6cV_=]&^ol`o/2]/Gy|33+2*v/FTq3^NeYCbOd)+Q)vF.ei]DGxi~aay*ae+X,Qiu]6/hw<m,+Fj5f
 dOc*6w.q2/?<aGoj(5ws~i#=/)l!nJFt'1Z,~u;L8,sB'-#RI>oqh[^b`5]G/nBpqiqP1x0<Y2:F2)s3rv0)I7x$RX<7kk~LW2]4&N-3'07Pux,a`X;x1KG
 IUQ>]jpbV/z^C511%B;aup[NnC,vOX=-?j=pH7t>SR5BWKW:_9o;lp-vlbyoq7rfA1kB;9%5,oI&'=Mi_?7f9hNKaF6Zi;68xkWH?CM=*twAIbJQRK:]YYf
 eTUI_GQ4>XUCDI=B5o8X2'h(KXLikbUc_bA/;4MKFqti3oV%WseN$@?0-ozm4U(<39@,cIJxr7Guz)@A@>'QmUuA(bv!.<Ke>haIJ+['WmroqUjo<^npc^5
 'P=n_j;gYZb_Dw=JhbH7MF|I?aShq$gP8#`5y]B%`b:9LboW0;EkZic'[1/P_xd]5AuvAo@)Y-=dzBOf?D+%PI||G$U:WH#t=RTH<;s<VlrUurMgMNpBJ?@
 ^y.KriWqjiKP~E]QA#7]O~#xx~h~QeR'ytWX.DEP$/4Zh9XjSReB[JdfQZDu+a]2Iv;m-L_vgDU^lx`^t`'C>,N;~~@ky!)sFj>mt=Jc?fS7e=;oHe+TcDC
 YEvP#L*NjSjH[%Zl4Uan1H(:?IF*tGOxV.1!d!@/twytc;f8j/_`ChJMqfUf)@cnpjTjOe0Wsmd(ehSWG`|J**B$'!Zu^w8c11j~$F)&g1:?eOf$/:u[rD,
 i/eA@nJ0DqAe=1GWFtPbe9'f=#</t/eL>`c?MltWy^q/8v[Zd;8+_]F%;'P_CgmD#zAF24>|SDD$_a0cc-9c,n@]YI,6gj,,&+mzPxUN,+;1jB4>HxIqQav
 @dA=aGqEKkQjoBQJ<?5O]0!~MHmCkZQw-E;?s3+dytr7+p&*m^)DuCIaHo4FPUqoXcj~S`Lch+!K%k9eS~[>ElRD50eljF(:'w-KHh:|L+E|N^q^yBhvx&:
 UV&Cm5~mZ22jA?s1AA^d8MzwCg7(plFE]<D>|?H~Lfq0+C7ig>PhMD1uW)<I-!ufz@/0P3r^(MO+l<=6_*e>[#gzZd5h_u-P8gtn/Wj;E2aKFH+Cw.nY[mt
 n1BB,Nup0v|K>-T$<@JV=0v1H?:jzfw7$uRey,4oM=:0:*:ewy4qK0%D[]5l`.1#~z9oAz=BanCY|O]T`X[@]D.'G7YRiJv2cWbE@<7Gg%D4QJ3C`^:*So&
 u-333W~HwWF'&@#%r>c:xMj`00@.B_(M9XJg6BkN]~QMShh^0t^XuO%2xxF@@GnQ-K/T!eOUwsUDAPEOO`2G~PjgfGDW9sRXf4l]/FqFoH^RCc2U$5D+l_F
 Z<Q_=Fe(>Uf(e(?..G!WUgs/?IwrGf-:2s6*YmlE.^mj$4XtJu<$^P'E+=9:jfU?l0MY4@-quh!FJdCQ7EY#J8|y-:[MjWd?SQgvbus`TE/oC#6DU5*rTiy
 9Eeq09O!oi[i=mTKSe/wNBb5lcfeWx4~Co+N+9rrZePQ&l:(/>]u3@62NiAZnSWmj%Nkr#LC^I8i%jdt:30(29qu+2w9LAS-?zB6QtnIxY2':odFUcJ]YJQ
 LPV4'01z-_9k@+WyCl;oQ^=KT74z[qoW]fD~%k4lC,172pWMJ&2jfsQQ$sUk2b/=>=>cDUuYhhZ;yk,Oi/:eh+xStcH4SQT>ht#O9'06O$wtnUsFYI$-rFP
 &.y*Z5ZcVx5]v]TB9B:TndOI>1=fKt[0CO~31zK4?x]@46MJ`T<g)1o`;T)(f&+ng_EAYROzI[?7T8f~J|!QBN=X1~`>0@g@;h*^dlNhA2ob6hz@rP[:OL8
 CevW~F$<q;eii'Q/R)SL4LU)h:h.rWpH<K6;:/Vh5MA66&bv</q*.QO:E-Oq)JN/H8-ztQ&WO/,/Yq6XjXSND9YeCXsIUs^RPLB-,z?*.==o7_!3d`$G<K8
 Dmx`d|~?bXw'gk5%#H|)H|<)qf*Y0v00sTxx'ydIx&O+>|?p>xY7,0sK>6JeB^Q<=;-Rs*~f+:|I!]V161pf^`'.XvQj?CP,xC.EV#cyMg)Y?fueCOb0A7,
 (<lFs)G/U6%8E0z^%]csGtuQy]0(]Fot*YMUud#yg.sK^Lp`K1mCmEAlT%ok?<nG+AB>CEvX,,%HGB~2KKiT/h9dVjq_~aug)Lg=fAWF]D9<L#_EjuBHc-2
 D!0>^*-|vW(GI!i(nF&rFgT-94Qb92U%g4cl)k%D&p'tKVvRp!/dxBLm.q-G_|na|T$ymfK]y3h#$3/'zmV5a|7gZF+-0ZU3soND4Gt<RoYRl=xp4K'I2i7
 ,CM$V*b+$+nkjL=SU#J*O#q>FW)+^H,PB[9[S5n,4aJw=$85uD+^sD,`^jA[sZj=4Tp@Av?!Lig9z58Pe=jH,RCym7fUo0>8shMr>EQQ'?n-5wcHDysmiuK
 gtIj;j$e;UvK1~no~zG&IsNYGQMNnAhGf;<eD7MMsk>_aYYw2+xX_WpA24~Q4Nh9$$yPO-CK+oiclUtHDCp~fPkpK%HbE|$q~]h8R3r#^rhTbe|ToDgAU<3
 BL>GI>s[qoUv/17[o|F85#:]&X%$WYZ1t!d1?@m4fR#'L1WI/q5|;c.J.Pfp#)RsJR2*u2Cb`L#[Y'A$1/H|2/^?UPL<*iP2LJ'!%qHS:kp5Ixdw$eM>0cZ
 fMAoJD%H^xTGro5E;A:6I%gB~vCwoQ@Xr&]fSCZX7<wR#fmugm#-)=1+dq_:u$+mouLLZs+Ee_$xJb|-!DA6>aT=&N_TU6ZP)/(^;W/jZ+1`9U|1GT!E69,
 7Xo)@hDp!Bp7ph+tmYFp`YsG~<!JA2:=FlNhy[VDK^9n[/%FdRfDT8rqe2w`]5IWKAY8Z7ts0_r7I|+u#/FW!OoSIKTRL:]3U])!w*]C;$[/45*zLwu:fo]
 ;yqM+d^ou72jcKKxl?gNJ*QbeMe/T#%J_V=g:McP'D13uLb~e*WO.iGtAwlr0_S)<J`P/NS|.`*ZF02Bgq[P1IZ,^*)B2XL>v03>U[3lBoSq9TBJ8pip!.*
 -Vp5r$mwXs)-ci3^CWTLnrd@bh4Zhf3]Kv|1G7BWDftD~p6Nq@V_Bm1T-xrnpNSkr&YQgW5M0s&^Pp4,6TL=w9XTBpS&A$$+3?>9eU-YZxdx%t/e#@t_$Oy
 (%sGL-*+]Tvdk*1EEW|Qq=?7X?Cc+>+wme!C(ABoGV4bfrF_$GGF:cEN|!ZFiL.aJYElhY?)q(7]Mypnh^FtR,9c5@bqA||&$$JFl|KsNQsmGPRHMAZn+u~
 FGfq?z]O2cMmZ?'^^A)#5<i$A0zmcb@tNIS(93BGg`Pt&_5SyZv8u'dm57_s6x0ae-a/0$^TwKRt))XbIlCMcr3VR8o?_XNLn%2HcFzji2wU+FkgL4Z-O9U
 >yt$JcWMEgp:+&>veF9+eD$)CB-Lf)b$@8Ya<6/ecyU^`NP;YDJ#;'hw^bxQ3igA:[=Rp[Th4l&Tro56Ud:`|WJ[r6FN4Cq<AZ9qPG(xvyF9QUD80TU#?qE
 :@mZbl33PD0kbi+iU4G;x]U3U$&WEN3T+p)wjH7gn^|5F>[uBXH'jw`:,~3.xs!u,idJf]0pBXt7uW[<$%BI[#M8HC./%Nrr*V6AYp;vLVzoT0Sbh~c%fnM
 oZuW`JJ_`[8a&^Ozm=%|-l%-'*n(rR&Qvu<3eA`g?wk8V$N;3o|G'KZW<V_551s$gWdONGZS:ga(m%_VNoyyKsKd!%RV9GCnL3NDKg+h<n%o_$z-8>gnvv8
 IP96ei:bu?TnRA.Os[5.~yBeF$3|z*zNDa42dRz%E!dvy^L]XhwLFS^-R#]u^Jrk39f/d2e#U:.iEj,Gm(o*~hYIJM%/y1r.xdm&m?UG>,3O(tf0&Zd=9Sh
 uK6eG|/1m.M^qc5I?e4X[%#5B3[bo@xrlu-Bv$-(|uFd77</7C$IShdc^m*0<vx%/~#F3~cJ^9y+F(gl=MtA=ghierU/O?jeCQ@J]EGz59K,O|#IA]~;21K
 Vee6h*37cqpSl^^hy85#tYC=;?()d#Ff,ru[Ad_R&m?:g*GGonYk't^c!*$?RWF^*(y^38$Tg+4xFw/>I,Rx'omt#TfFq$4A)K6.S@Z5%w*W?v~?Q<9s>wb
 xqV@<MXRwE|0<8x!<&:Rm<AP|ZZr#-@ruh],zh$N<>&1EI[ZfyiW~:m;$=>rb]fR=:$X>T$P;[0B*q59NV'xDivWIFLymhn(;P%'Ytpe[WX'he_WANbd=lF
 jCZia9_0iyhm(NfDxGQY[oJ'e!,-WP#<GBMit@LAk(HX)p##`+zvK]9z(ov~~#|5PzSLaEm=EX:ynn/uhF</-%HqJy)$rPBniw6~#^<DVG7sAk_3sb5EHjX
 A;#yXoteh=+IDnSCr&w6BX;$ah!ScM?kMjPuVj>n#=4TN^u9ETfv&iG@+;4f2DVhLWF9(Kf*tEiE&45qApPcHFqNA5x]!P$xk^]k%O:#!zgT0+xUppEKK<.
 rpSCz9gL%`e7PJmR[&6*.?cZ1+1)4t<=Z[2cTs?*tzg:9+=]$eco*MZKXkiE,3(QyR<J'f8'e1|]rD'3qyr!b05A:mqwoz@vuZl1:(UWH^C,[Dchmv6y!.:
 3~U]Q&dajFalgM/e=4z<.URG~s!R`qh#9PnR-djYO!V'En|,HB*9ci`fzB-mH%,)Es:xy+aW.,C6E-g-H~/WTA(qia?<xWGu!(`F]~Eo2vz3+o0~_mSx<Pa
 Uueo(#`<7i,2z~NViz^Lyv^F%VKdD|Kis;=qnMp0_-[qBo:LN7yp?$`8m,yt5zkJsR)]Yfo[o;R9ENvf@N(xJ$VBYR6jLJ-j'Vs=8t]Co0HIFBIG?Ji&+Ee
 ^9:NoJLN-o]0|22$J%ee*2PR7Bla@^TT)g|]wD.N.ve&GaIOE.@d9MRi@.gQVEu|;CdZ44qQAF+.,KETe:e_bdf+LrM&%~Qlg`[O+sC$KjIGuOaB|tr=t;Z
 oc6tb%bCIS<TppItH.LOYMgT;+ot@P~kP@2_DecW:WQ@W>oO.$jdlPWWF|x-(u@ix91DP=^<^*xSq!>=$Zu<.$d0KV8VjbY^8LP9/<g.d@`h#,e:rm!~KSI
 c|CzXw$A9!t/v!AxzQFigpnT(ilJ6(X196cdzyb.5;(?fXju7M=Yu'CX=^]TJn>Ggo;x=SFc2!6:sIn-][=aXNP!;1u5nVN+p#pDV~s2uJh^E?PVU`eFT*g
 h|MFQS|;AOqdTzD~<I-YOF>;h)[#ds3%`Hx3o:4uQ3E[;/~]QU/6R16xbvI9SRgi*x~Gq+Qjv~#-yMuwyI)GkTVq4lOd+>6K#JC]~D)<^`|u='vB=w8._jO
 _'+|1.&Jly_|thmzb+=pt.rFN`#F!z1DY;x=CYjjOH%%*0Q*qnBtA`v<QzvmC|[id4s;|cMX1<35xDHHj?E<0ivisMw]O0t$vjyx,h/dV4AkV*z0@h$[Hu7
 6KLlkYW^G(ni>V_0/A,=Z@JKpp%wMLLkn~')8_osb6;G:kI=_-YO*1JZkoxAffHw6P3bH77.S1up?X7'5s=)'j^6<a=8O*8@'^K,MTS.c#+=)cLM9)o`6.W
 $n`+<:Zw)rF.T!rmOFzT|X^,,,Rn7%0>8%z0F7P!j/(4~EQhFiLNd'o5aD6E0LP?$_gDy>WY=#H1+:f(!F0v92q@LguoSG_@Zg$o0q?[=[t*N%Pc<,>Q~BT
 FlBw|je`.46%sRnj2,:#Vqs3rn62wD;9Av?Z*wk>.$z7w)o11D|<%pNsyDp2~T/dwr#<%EA<ppps`],[.$uV`V3d.5IHs)Xy?SR]|V5`-'bWOA]abJOB<Xb
 WJJzfHzQ=8YAGR0^cdtw[IN^EG(Bv1u<+<.>iQ@*e;a+m,xl3:g~(oCsmSL1#X@PF[^mVuZ;tpo0cLyj[C[PdV<h-RSOlAA+P'E4_LHm.gK:A>kQqO%AX/*
 [|v@`jMgqxwSec1$,tW/59A_:(n7;T<UPX0qT(qoU8Uzf1w.0t|7LCd:R7E=K3Xzs-xv[M,viF.~F#3b$KyR9DW[&9N9(EL9F`9sz]TxSDhF449uIxAOd`h
 cDUC8+.gdZ[2>*j)Sm#)jEWWY?<~L<4W@yf,1$ARP5,gb1nil*ue?JCf,nqv1]B3sg|7?D2O2U*xNdvn~4:=bQD3$zg8'Nf-`lcdD&,QT|&K|to>y.~Y>CE
 Z:QSm~GKGL|ABWF32gFK/lr2Bh$Sw^z8&%bw;6zI0w]NVKzL#JtywVh)9$$]jth?I8Vl82>qIT?V9KV5x)Cxl/y!3U!LK(c`s(L|U`?E<8xE3yL><6yUsaM
 d(Lnj#K`nmB]0wY17MeIDqUlMo^]v$Fi;Kv1/rGS<xo$o~SlcMl~sm_#Fr=ri5x]I7vAvGG?@Eo($AxW_Qs3T-QnMETsEF7NAFmY59l-QN$#,FY.&9[RFFu
 _T'u(NUV;1nC)M+*vJID9zUq;$S+N:K@s4J%MYg$u(DEF0!*u_H3]_?F!(U7a&yl&5=jM1?<$k53H>b/Qj_z!S--B=(?]jf-%]dysXl8savh:39S>MB5GP~
 Hwp<pw?4D#D49;L+'z@XWs=pOvNcmVlHQ=gw/zMa.T++b5f):Pe%3x/aO8K^e5%EAtRwgw0tTDGX>dAwl!mZe&[yPCBT:</=ymB~n]ah!2ag;2tZ3+=~%)9
 9,qQ9F0s%ik1RIr(7pm8u<Pt-9DIo=aK(#utE<wjzDfDDnWhrDKf9rq]Js1GVsoRCOQoo?se_vp700@wMVEILn(xI|KSCk+~F[cw86@XWqm?@fsXV^|Ud;Y
 P(ddvwQ*BY5.1*v0s1zsiG1CLB7X#7#9Au@0veNR7xS1+`xgX-^Yc3n[40l[cH,A#2nKfTpJ^ZI%:&e*pEC9B_n#jsnaS=,%FUHxCfXqBnVT)h&Rh&?6'>D
 Q3PtF|m?VqiZDWI1'nJwy3&J1gBtGEX6jvXhQP-e^=I+Ne18cmPGn^m(&hOe'4tjAw6=c=N,C%(<b;#putEV!<Y1VP;@wYZ+hR5!4Dk4iJy85.uK2Yz,;Fx
 V.e?dl1y`s9Bx=n$~sZmiWlAPpW*8)oU]](<20r`al<2G<#:>9nmYwX$qB.h9g*]8L/6L040=w%5|7H.61`7|!C/9tAvIO+2-Rd~nqaM1!I+c<1]Gn?I#ql
 v+Nhl6J(nQs)rc0X=J.==M~X_ISj%]YjuPp]dph@Do1/4N;v-57:`~,dd40^2GoKVbn`w9~h|JiL9:9o0Kr,iOo?2n'Cb>w?:,tC<!TV=&Np%[q^@Wahdg[
 mIO6nmO:M7g!/eGi?||zCxfp.zvf(,9==CdD[GZ!vGK3fL>+gY;g&=cj`7%t^GLsfuc3QJ%5.uZG!<5=-CHe1%:V3a]mxj$dLI#.X<dBEt.lzN!6K@W`)i~
 n[<J-0t5NwMm!r)A|a^I[1SAMqr~'lIRe+sU~|V,ow|*RMflG$U`%&YPkbNv:8CkFdMtF|e>nvJ<R[Mtg>mokT-@YI<aQ;yCL;+]l,5.26g~dZ?S%1O1GRl
 sE7esrpBpR[sf-At,Khc:&^)5g;0dE+xZ^-:X[JgT-MhpePT_O799lv(Hb1AyC#42J=@hb~ISx:9/+T&_q2:m>8I1]jeHGJBm5vOe4rxW_em;|G_^2;xkte
 cEgJh5~0zxAzS[,~T!zM=v(7|ygQ^nB!6^>Qq9-pF0CsU-w)_NoW<V_yIGBmId$+Lnwr.:m]no!|[*'TcW8WxDG$vO[ebX8//Op%f<+B7)Wf)ZV7C$]OT4p
 ANQYVsnOA`T`gn3>aU1lO@T1[QI;:Q]~qt&HGcpj%V%'i%:Y#sp*nY@b!;=A43G2cb)8^^k!M/|)E+h6~C~hTdUHb~bC@jYupe^IlcpQs:h7sCj`wCHE>n3
 7Z)BaH+iG?x&-)Jwhp/&AH4?+ws!KNgP|[S_QaM91>:,<B&^)(jCjUM4j>M/Y%8waA[,8JkG4EJJ`dBkiAB=cks5vk|iEVJ*)H4e1+RCEQZ>h_&D|?y[YS;
 I/s0+s4Q~C+Th5p1)D.t$Ag3YK?e*YPc+$L^<F^Dth4G100`?_>pqe+y,k|LhI*9LNqMy>g|;/+`7BN*LBT&U2'NY)Iw=:Pp?zs>O],@Y-u_'zlZX;2cVrf
 0^+%t:=0dYNuXZfvapTt=/l=uK]D@:~d(%@#wY!5?U~LM9SdH(0f7holjU09LzJ*-Fe^!^@s6&80g367l)CD,tBPT~w=vvCu43w6>bu+kU`<V<CJ/03y&&H
 yTF0wC$#w+G*F<`*G/7R=0%3<U!:+];N0xyw`gf5K]G.ko+sn>SNBN2VEm6,GBM<*><dv93f-R+U_1?Ha%^6fd@xhI_:st:Tx9.W<p+_PBy/7-n.c/(M(^W
 2G_dY0|isy7joI%`1@ja6NT+*(ci9>]_tM@[ggOs9g.m~!k*Z=@7DDFKM!(!PjC^YF.IVLQrM|#xY8`QY8tz<q@/e_Fz[uolU7BWE|f!1JvS3>E:FFtY6s+
 a%CEfp'<ZF6sv-i3ktp5h5n,Q5~dV_P]zi&)J1mXQy'|P_bKa3Z*-mC:0<wB0PP.<!``;WvwyvLc`5KR3%2jz]yoh/I&E/)P%]DN2hlyC8~xD4>@)S(Xs(&
 !dsyD0H+GydD@/N]p*;'YBA*F=f)W4P7e3c0:$u;>.kcvAedXXEH+[5q`Ez(o<xvpnL~;rlE+<ldt8ZVn=7-;-#MH+fsgc##6gC&yj%~0g/s/bp`|Sxb,f<
 $z?KOvS+<Lhd!m3?O4fbo;3,5OV]UnU^|+vOw/#=YLt?(.$W`nTL7Zd`?#$Igo/l;@.Fs`CzUignm;MxGwk>Za$8_sM()oL*6Y+oa5QundCIM@SUAqJJ~.)
 Lj[?Ctv~Q!;C7W(M0S|>fK7?pz/+vj43I:KP3%z,Br3X`_(;H@y:6FbS%NsgVq@9RQ=.DSH9q,00M*2xpEXo[>#x1K0VWb,Ys>^^22Sg19.~ZiwXv7>5e<D
 2j>qM2HX3c>#D5QK,Hf%CKV$uk#10K-~2?=_@ZpyZ-h|&sgaP<2~gW9kP6W,;$Jp+1aJK|NS)+~MLh[v?g<jIzwy2(HXUHvAcO+Qi0xBpB2Qx7IOWL/J!%0
 P~?&T!V'U&'9V#H@y&vrTG$p!Pojv$~.inFYX_P9B<G`X[bLQsgo'=06Jy^&JO_f/=![E7~GvIs8X2bd4'zn>!x#mg3s]LNnX56l,HpUJN!~i5$(a)gpVZ$
 @G6G>!/=C`4c1LYxogiqxHfv9cP(a(m'm)xKXm!>%,0^wY[b4(Q@$U.U*yb:XnNJ$`7jBxCKR'9ccu&b$KC`OZV501(AEvzQI-.nD6u4cBu_nb%P%<K,_$O
 n+LvSk+dY=q5P0qKyv$;.`YKXX6q1r2hZS(OGoePZ%;U[!PD.*7k5;:<s:I>(U:+hMbP[dhVI'38QY-o'yGf'x_T7[y|%LFuwI61$H(AC]vCZ(fEi^xi:pE
 kdXe%sM#'9^+I:y=nu*p!8:azZk&H*FJQxz?2A*p*ztrg2`L?Yc':$a_z,9T%`GS!tBAR(+gV|%%'1R~5*JI^Ej7y_i_-j0s|nH1yC@aI_s)_-U@F`P-YMG
 gU|1rBvrz256&,o/GwChBT6)X;x;4-#=j%oMHR*-:y2~v73/9I6!Or.hBz3nC's:ZdW+!ED~V$Rrwa#i5yyLY/Vb#yQM&@yI7aK!3LDl[t(kUB5g~lQ]Q#e
 qIv@<`l]:4OA$4Bf/IU~cpDVQR%^.rr_+]xqm%e*7pNtevL`Z,K(ygl:(OL7h=&$6)vHoc553Fhj0O2Ll:.?WS%kf&=wD8Uv1i`k0Pco_,m5b-%aY(SkzSw
 (%xpeBvV!*W9<v#kB?AM*T-]8s/p4<Nzt,e4<+oB8(X?rM)Jj|,T|/#eGOgb>4es9$43co@Mf|^@?3uko8Lsy?;):5q6^#t@3d+2Y=g2LQo/Sir/jp=>_/[
 |H`6KR+qn5=zE)aM2]1HdDv2.qJ?gsEu&9d@ao0Ad$>,=ZSO<_QBbN93/r'C`~imTuewv!-qa<BoEIUkt*#&m3RI0=Bqyh.:%D:00Uc]gl]?3y:%XaAq&!>
 /&*3:x,.B.7dQk;>,x|9<tfk-j@YN-)KZkYCD>]klvO2,5`nT<TT)sPV]@Fp^VMiC?JfJ:XoB(@X<EJh~8>B`Adj2N(~,E4AJUEe*w:t#e+I#FU7dE61~!m
 EvTE$GH-B?oa?<ag,8$zQ5KA)#!vL$Xs=W1ZX8-eW*J)R:V`NQct`wB7clY/P+mRqF]j3j!'>zch'%R$lLDz~d~SsY`%!1gfP>ZQ-5C;y,7;HqQntWjJP^q
 L@w8@$l(dQ[]NQI$>=x37bBan1RBg0(iY83:ri=f$n2CV/S:.k3Nr[;4#nhiOMK#KQ4#tIC7$[!OV$q'2Byt<9Wceq~7a$?*,gC=1?Q6sL`Ys>+b49S*k&2
 /-`<9QUj_5?'WvkwM!BE^>5z@.I0f5?2yjB?VGcI|XIJ~zyS9M`wexOST4z~Q~/T5:cVUpJe7PH]x&;f#l[/mWaE`.>wF%B_8@2;'P5E(t6Nv8zR?60T0%;
 (*nTlaO|'6qTd7/3XZ611<U.IUx-)p=99bpv0#tQg>Peagx!:^OrMMq<lt1B*L~m~Cxy+OuLS(Cc&'abYAPi,g&/]2uUsGG'@|1#>!jrBD/&5qD]>/`Hx1!
 1lP;-QC~i9+kr$CBD2PF|=j23Z(ltJ0<,d2jnVb8,bFLyys5g8h]l>!^c-$POMroqrq*%+^D]g6Nw>NYWJWQP#RvFiE#oL)|yX_,T!yG5Iq&cwQ:IC67Mk<
 E.s5GY+'<;(QS+c--r:a1rab-4$X-.9~an;f&uM]4ZJkX0u'MvbZr%M$r<'nIA2|,1I52xUf>vA[34=:+ZuvE&2n]cg(ao2$0VS<WP'$),:rxZS_K+y`f$,
 ;)NF0RD)G?qFG>[D~D`_H=$B//d`|&YNbUGpQLJ.+#aGK,)$Ziy;bRO@SwqXYMFJf2c7d6st-cZvNZivRIr(>vXr)-6&%7EzuBdGQ@b#pA/Mjn:b:)bM_LC
 WFs2k=n/eSiZCV@d+OjQ`Xp=TjW$w%ocGeI8,h`gSBvCD;'o1?Lb]o*/3egNJRQ(<qEK!>!E'0u|QM5Sd&BUsxlu^DheU933z+>$y068wJ5v~HZ$]n<3YhG
 &iN4`E%!_zK@dXXj.*IxWOyf`az#fWA_v:H>D|sboO~5a'wC`hz9elt2l)z1O0i^T`k]7u`#1E6!><z'><06v3483<1jotX2ayG^@dt/`t#w,j$q9VRqa6p
 lV~qo9%QWi6/0#6fN~o:xFRT92=6F0+9,-+~wPywK?60&;/,T%v@V(#%)%I#9eS;gCs$;))&,C5O>udq*=XSYf&5~$I,Lk,#&*>:Y$[!6q|QMM8GsSGj-G4
 !12vluP)SK-4,m_NN8[G8.(cRQfJC:SQuBDlr^-]$h)mjlCe8.-QB@,&IF7^kVg;WjIqPA&5oHbDIL^)(T+/1*B*Z]ikn,PW4cfLbBF-WqbWX.xr:ikuSlc
 /nf,*Lr;+'yp-60Xb^?Ij^ekjR]lhWt*tmRw/AuDH&7h4)#4p'aVM)Z&4IE=?z_:d=y>aDLIq7Tp=r~P.Ad7d<3J.bryKu+~x:hlwSMqm>X+&-Sw&r.f^j5
 .TV`|4?[fZyrD`~K=`kX*jGMIyjq1a^fKfR?FB>+%08Uj[EPn.AOFIHL3R*1m3&wRC~4]~pdA5j7&x9a$cldzW*,s1iAd<F8Zd</<R4mvRmk`@c1(-dVcSI
 @)E|)2d~u:B6s%vtuh^`8QgU#Ww!71s`@)7mpgHE9a45zFW74p80lzNs2rwa>X%hQaSE6yaP0<fIf1FDPQ9Wt:[K&kzlk-I3Hl)GHmr&;Z[!A)Ax$g-,F_#
 ~'bF1|PyW?:&y%[|*6-?#%=^2.!%wDpJq.5R]F[1z#/?0$NoZ?*B:By1*IZZ[X;ACU%>DqRoy8C=!0%j:9142|nt#EWp*70AO*Y$&ZuxPvUM,LDqm;375A.
 J.Y98ErQ#m)D5xT^7g/Ev8BH7l):B;P(I%H'QET9us@?5M?'[wU*W'^ND5&^~h)E>,<`f%F3IZVk/77oirFKc@#V0~GG,0+b]8%.s(VJYTl!SUg`=E+GI@.
 fuOC6Hf<X5:@z#Z$Oe862.i`]7D9F*U?B1tZG$o>81+WC>EKVDNgS#P6z9X4,%#A(:dTc`h1.ZNkQh+t&dz(y~/#;0$w;OL|q#K>]pjRth&8-G#=i~%t,Nd
 !LonbV_sLwkVof>O9LEJ0Gr)l&5F`nrDlvDpEMq^pzzYbAYuGu^-AAD*adNSZK[C'v[3qqRFy+AC!TDZVCW'jUP!@r:&,vMur,e2[S(g0X4lj3[IA'M|Rc?
 32.U)]~j5x`n+0!h:0+MX&W4tg%*L:`(@j</bnt@d%S~:w&9l;!+#PbP8*M]p@p>9GfL+Ufy3T]i?`rRuFf-RMznJR'EK+c+8QoKyH&l#Ek4(7`y15v!AD3
 !]m1ZjJgs$SPQ@S$])mt?kJw>|zfs5PLwc+g0w'7KBCLXGK~gSGGEBXUjqWlYC&I;[zPR%4w^W^7!rdw9#&$B2j~(fwXHCLW)OpW7t*+=P1mOGfV^Qow-m)
 >_vUc,.B,VC?Y/r+=3|pTWzHI<+k3rlSSS-+MVn1gE#&pjYt+=2;!*/F34=hCic/@^j[DhC;$++29@[4~<E<S]XVTv6H3tsg`0FttVCZkO(01SNZ+X2k-U&
 [;K$>RSMWb%Z;YYk;~yi#2Cwffx%eq`'__V2BJ5IKMs(Gtw;a!ezjw+o!B:vQZT<RxjW+M)z~EXw+4+r'a`JRU:/u4z-DEdKgXjNkAHLG$kCCs^$9?vk@~L
 %er&3Dz`j1WD$m7FIcgb^e*sT?jngzcA*&[%1DCeF?s~(Hn;W&jcb<r#dk&$XXWDbkq_#.APv]h|!UWxX|@Qe.vm&3nznI1&]xg=|,%PT,UW1BoP'fa.r#&
 @r2YePd1w]MVw0UC(C`TS84sT`%;~O]@%'l.yroRTMx07.aR&'*D[**C$a1b:o.?sx~[-LOc]nEWf>.VpYtrGtp)z*([_YFeH%*9JzijQc,1&9|H]=DhUHs
 7-+gXoU85a_]r[5zXXj1iH9V@lZ,QN^/]vNuyBoNU)@!E$vFztCQzt]%-(2qErFV)Hn((P0ae`xhFoDZb>.8-H9x09^UO1%LZL6j]6qn'yihR5`3l/k-E2^
 N4@`RDA*3L%GGE~wf,NQBT!qM_AKa5KS9S|cvCzem_VL`rB/@Ezjh#G/>0xzgew,AWpHYg3.^lUrutj6F)i%n6g_>U@]n.=WlxnLbf(k:usW_v?.$TM9s8=
 a(8,5E8TA!oD_.=Nk1,Tz4=V^ZKoj,$>szZot`RHZR>5X1NSA[+@rj8q,V69-^_,l2m$lcqL_D0W<MLQMPBePg>r>1+_GaGOYbQ`cCp3tWyl1_H^]Sm=FbG
 /9|o#dEySU#*h~seRRRW5JV%zu#9zELq7D`IwPOZ^QmS:`[-#++upK]S1,QJg4&R.5sv*[X&WJ7zr>Pxw|DI4s1G1q16y^9Gj@5OA^[jNdk+GD[Si]zo.DV
 |7nT0$$_WZOblEbDnB5$.VtC*wxx1I4WU`m#]xZ@H;%6GDHVVdbL5c3j5p#T=_=#e#QC'mR<]$[s.VPY7hOw]@!@!;[|*+|:SJY3i.bgXaV3lxh*w%`sl/r
 V8T1P()s;JqXxfQR$YGT17ysU|+HwZ@zD3/T%f)Ky1c!)|J!_OzqErOX^mLJ`g3USiJRKYnRnbQD]Hn&R3,,T+[?!K:jvHNhZTKH(0q8K7C:peS!dSvR%J@
 MN$MCwVlx$y_zo7m;b.vb)7OyZ7)nBeo]RI)23HS[hm106QZKqTE8<d.tA3]86uwVr.0GYPbnyP:'gDFHkKxYmRl^QF,3w=|U4C7>O.]YS+C9lD$m]bH.QM
 Fu~XC)506l,pE8cONU|Y:3Jt>4~Kd@0s/1Fx9p+$MSl?ne>jO$Aguk18b1Jy8z+JYhzo7tc~xJOOJy|1YkSBwIm:,g/c1tTl=cOpoS:p[+I/2AHr:S$0saz
 @0>R_O^H@xh>]*2e<ZSLA->stDHc;wiXG/0V9HL^<k_p!GF)68=x&.<b`/oC_.0;~Nhn`jyG]rOE7.6L|gtV'&K+&oiq0R2n>+MNtyw?!0M3BY=N,ayH=Gv
 DME+-*.G)LuGD4ZOQRp-SH5OpeoxzpQP]hL6NM6+r7;U0NX2uhd'N~#irX?Lo`8N-'JO9VKstZnr,*$|WwPqDi7OtA2e07g?t53Vh*](F4tN*)J1[60SXdB
 j!6R5=k1+G-hVs4-*5>w8E2:40qIo=$pO%_BN5LZLs*l(>*IR<K0!j385=10S](*j(EK%~n(NH|/z^/$/aE'~5JJi.lDuAgk7#z8s^5]*/UVlDmn323M)j.
 $5$XK[&7PRH!0hj7BOy$>J%@En'q|4K8^k;-5lRK?fWg|_7=CheK7^iuZ!]C`48H8x_;62zlJVw>gBK4w^Gm0njL<Qm+E?T=k$>Pl^f'`kAX&wc~be(+~uT
 X[UAV,9._AO(ORdd;(!2KbP,jqAbwq9c~'dZd(#?C%se;BZT9~dyd.6Dwv-Katj2_yH^4il*hotca!.[D;>XM+(1]gJqM-HC_o?Ykt+$JlXgp$LWcZ6lgyV
 %1OdEq4kY^g$2X`QNPR!na,dOB9x]<1;n;N?~R]tU<@E>YuA5c8J:lcLz%5[45rP&q0As</EvsXq<._-='TE~yfH/vEx.JiLAj^RA,Th42M<po$vIa$BSS.
 &vigNj0+Phv.bV/:4ud=ZhUk`nnv&fys`g=A'r4|?R/UK3u|XxPK>gXoLsl!|u`M$d=Q6U>1gr;.geIHr6>vB(Bg_0Z9i>'b;e3tw%lG+MLJ#!,w_C[=8,V
 nRpXSw.@*n#hTn98Dc[9!LZ(J0'CPM7(*CB5c.(6&devbLr]a.]<gsM*b4A1:EhB+;TA.QR4Y$j-HDzVv.XA9:Z//v9T7aqjj_M--DFNus+C&4beds>?Qtx
 5*w-=Cw];:'q7&*Z(%;&Aa:WxHwZum-lcAx(J]cv`*]tkTtg^`H2Irz|fl|Z.rnKH#`<i.*F+5p|r,#S5|[&FG~[=9T*H5L%RIW5Nj:Bja[|R63pfJe9K7^
 i/4~~uRAdZ8E<yg2f9;var)9i'(h>eDjC2~M)3;@N_usZ'uqRN9Vv<#ZxN-&pyL[oL^rMd!*)KN|!.$82p49it@F'p..|)2=8!q__!?_8`n*!Z%;*S:Rt=s
 #Z|H#o#Rja>?JGxLS+T8CXC1:$:bM8neU):,C~(]D#Tn+7q?MqBYz[6:Wu.^9b1='rlq5jc<=1???A$A9etel(XpsFCUP*(#1)o%!aZ`Am[?N*2Mrvg)n3~
 ,)tV72>Ywbo:@ByqxL4-,anDQfWr;s:OQRsk&BvIPo_n&P|tl>Sh8ojT8mwL8/7ON[tu&t9<_!l`(M$w9Z^(./@TqWFkr7N]Z,J2Z?0F]paoO4'qspaW~;>
 q[_8(oPM1AfnK[cvc|gm6U8^AKNqZGYdfEwR>X*B,De~o#0)#ng,(#tS+@u8ga2%+q@b4yH%>x)rOJaHQYDdNV^OO~bhwmaBSi%G>3%wSG.QpX^Jf>`ier6
 DN_g56&G.R#bfChYKW(LuQ$4Dhn`yv]LDm|:v_p=8y~M|Os30Sxdwv7rO5X#R&i%`2n']G(.x8&4Eu>iblD~&IWxZZq~ud=,q!a_%pF3r1_iRA9/j^bBbkh
 =WQU^pO2ZY2/wo3~4qagp:c=wum8;Y`Vj/$*XLkMD(|Em@*6LsQ>n4V*,:8V;46$F:<Z@-Jmsuu$;Ve^e.xU.vX7jP1v%=aEd-vci$lOQ2dCALB9]sQPB,>
 A^n^6|86D`~<LJ@6yb0j,'i&OaQc]Mu@uHA%2P06u#Kg<FN%Q6WG4T9?`*;]zSjt(CD~&RU9_QHH*bi)]4eemP~8)XK2'BFM)Uder6.X*yPiPZ(a1F=KIHc
 ;~qB1_pV%!1Y$T,u9YDXbdTTVg[@Rp)8U`h=F.baL_G&uXc(e?GcIB<,b^m+U,;:YngKD~.wd7*>'lSAZ6`;[bRR~,cf'/i^E.6A_'8c?&aQ~7Ee6+I=fhC
 d%sV135B:hI!v->NXj=j>S|%US*VX?G1!_Zy~G4sZg~c%?Dc7zqx/MlFQuA*'l$Y7rQE8m$pB^&!z59JI]RCL,%n.&aS#JXSWh/M+BMd7c5=mO`J1me5S~2
 ^F$sp>)u>uVMuQE-K&vT8Z4ae6LQa7RPEh8x7`-12N;O(npp`aa,!HYCnHWYt!v*?*D7k/xRIEE>e]o721qE6YQ]L:L.@-3`)k2j[^iU,6zh3drP*c0##9|
 `-iQ/(c#|nA%Dbks2e|76mI~%qsjWTS$!D@K?/!^Rxh15jf^-_iU6k&!X`/]C+s<n-(3li<|-$_wliTVW*abLbjKxza>|b+X7u-n?*~g8])P:hxqFALW72[
 aQ`xy/s/'UuEL?LkRS3)An=udxcF+86J;j^54j>Y,`,3BDD5?XG@U4*O3#tO|-S4/(b%`sA1BN+Wc<luyF3Y6jX|Bd;p[XI=e|/H[zEt@EAPn2nIgf26q0r
 4w6zo:L6E|W@`RY$Ws[2ehv$H%3Er0p'FKjUelT>JS0whXv(NH_)*hiAizV&t;,=5vVp)T'Jlpu@k_U35e(5KVE]LIKwN,'tcN^$nQ6*XHAIM^)J.G_PJI+
 rg5^moVG|phQO0)#zNd$mqHHhNg]hNrqu0~_^XT=eeiNMYQpLV)X%0=m_75_t.,|Hhy8(P%v=04tN)Laa`+`3!40|bG+k]4D`'Dz@LE_?S^B`-Q`E4d`RvY
 oL#|gAkbi3iJ<*XjcR658V:w;TCKP1)fi.kp3RN.bncvu-<V6HxLH#+;N+@:9h=pY[_nRQYPr$6n-IR6Se[5o)Oq&g!**I1dO^C/CIMUY@WO9qs6^lNjL-P
 )ECA!CGl.`AEJ5@/dF]h+g@Hoi5oR%b[Gb49,E>?ScUp-e=:GGZz$jW80nC.Gg():Sk=oym@>/DzpIZn,;Xt8=W/K:>zjb*&Ep>OBh^<*9nXMYB<gi,H8qX
 J(b~I$Ez13bC+).vSQ%)ac,_%4GXIrABqmOUB1`ERWr:ktJK3zjFIbeEJbWmhxWJBGZZSs0m2uI/uK~/-J;fCz2!tzX)-?GcO[>K'`)g;)nMrw#4-uO?]Y&
 h/Ihb~Qd+Ad&0QdQ@i0/L*.<lw'|hJj7eM)FF$,~b;8MW^6f8/`~%;goS_n-W[+o/2#Kac+elgFD,E+JAEvTi$'B&`9nzBDUUdR:lW[9J0U/V)>#zcMwdc)
 DRxdrf3$Pc-NhKV<#X%Ge0<Z,nYOM47l*f;P.[qG0lk&zV]<NG5Fwtmyi@SbZe|k3vg%]q83Z.]?u5Le=n9rrIxj`kd',/iIhe@HQ`Lsr[T*8tLyE8d<J'X
 RVPASk.H8^skM9%)RnoWN0A6LT=[4;v+1X23HT1[W3aRM68^[aS60oh0+9]KUtfD->T]Hm-dX2<N8O;GuM!ii2]8iq#&IOGIupaoG]ZY!-JfIm'nvxHrNF7
 MbM)*hz3Nj2Kh)|DXQ1*.lb6krZr!:S8nT7OGf?h~E$v7n?Xgbr?~'VFpVo0=IKDj8%-IVM=3'%8<k*U9H:.2b?eX7ATHK=h.:+|&N_z63FE1OvlEL31j[z
 ^)Uoq@M+7lKE<QS_]wpoL1tU$61m9'FJ#vf>$zbPN,zhhHOY`qOqUhc*.Xw8,Q6^o0e+jZWaizzvpAS4HQW,B5%MN#h/l2-#7aLz#*M)%thcRf&HW?(nPh4
 )i`/iOlk:wAf']i9!_[ioGSMUBmPa!(b.Q5b~IzJ(;ZlD43'NQ:`H'cgG3=lb@~&m.GZz1eRQW#qZm+aHF92M(%Qzm_<x.;|%1IeU'=mBf%I(DdqY>kwKf#
 IVvjMd0FNxzJ:-#FdTPF=$RuPJig>YU23<v:ED#I?V^YaJ|67L`Fg.XB(YgteV)*>&la*i:v9Mk-*aZujj(*Q%[t~h#[P[>^wi$#3a`bJH4b^k;4v-5ART`
 !!d6<]g+HT,`J)uZEQ-UqyjL=0$%gvs[O=fr,'hq%hQ*9B3fEC&!_`T+SwtRCMWeU8@+bQb7|H]_6vVBMxAYSS+#Rfdk<45h%/zt0aZUkxEd2EcZ*t5IWRj
 ])rc31v8?'@TA=kSmef]?Y&Mc56&4ZnP]YfVyGBi^>7P$M8A?F(mJ)tSp_Xdjd;N?.UV0n#yD_,`SD=o=-q|GLaN,~^)7Ad>82F_DSm.3tHydst'!/2ng$g
 Q9QElr[FJ5^//O8kP'$/m6EtwTv|8ha5J3h2_%J>xFc.BKY,x.bvvko@-x79+5tQpr;JrN-C_[e~4f<u%y#)nRhg`vS:lx:p9i,J_-peG*ggF6MZi.<caag
 'C<F-#Y3p^FouKy<1(M~yPh!2xQFEcW6|TQNtLf!w(7Y]KR5~^owy;*j5r0N7Z0oE`=ZtQDXZ^wkxD9HMcN3N*P~wYQQ/B%75TUbO:HnuKX9v@*GxH_l3?2
 M~>aIroV*wh0f7WfA[P;K3#6OuJpKC.fsK1b6AXv=sAf%=Ru=z$VUD[_tJi$Dhk83xQU_<3uC!mb7]FRXJ[*+dJiCl1ALsK5+TBHtA&n$V4#/M&H~MAbbst
 9^2##@^.<l+@(t$HvI.;u5(*]oxlyQSsC~5mn/9EA9.fa]KPiSwaqRt'`Qh*u^FK:F;.EO?Z5>Is-W,ZS3X#s+CNlS%PnU1o2^c|)GxP[v0b>Zoag&D(`f$
 (mB0fjoE1kp_wMQmeZ26|2@7STC3w1?LcLG-`Br)IV$LD*?k)9<#.xI.(yhWp=qntx/>LC?6RZ+)onTfdS(yxwSF9G>&pav3j)?]>e<*p=!f>g[j+41A-~_
 PZ1zLHL10bTiUD.UU>o#gikXYQDei]CekD_4ooz9Dw!2GYG-0$-hB(&_H0=HP[nhJ-p~v|;lHov3[x/8#_4HvE#MjNi^2<B*):eAOda(1xSMmy&6[Q*+r.5
 >t)xrc,S8CIp<w+/J&qt+*F`9f9_eX=W-^>??ykK?M,e7#io3Xr2GQLrRS?:(C3Dfp+U?B6p|hU`Us$s6HS(jUO!rg9~%7P]vTK<!z`v<muV_.wrBdOP`5h
 =Q7GcG^Rv^(ukDzAlD,Q;MHubt0zL.h5s_tSc8yE2zOJ$p?@;fyp;yLVXR6=!Nh`=HgQ*@#Doqv)J<M#NdOTv*e!QCD$/_$q;btGlcfv%oRh~+$'NBunUk*
 -9/Ey`!]nSZr;uPtA@SbV>tVfK?;JTL;/7>x+oAQLDk'h~J*kwj%a~+b*EKS?NSG)?*a2?N</,9v#2+ufT[SG!mc$TR8:mNm/*va~'N96Ka/Ve;j/cZsHt,
 x[e+TSC%>bc4UyzS,zf;z/=:zNd>EOBPuDuj2'lc+GW*:t]-^>px0NG4&,qOaHiGJ8|mVe+=l#N~asprb$8Ubv4XrF'`iP@~4X##POYN:#E$jXbM,SYIip^
 fAT9>TYq76hz3kSjG3Qzg8g8)~8p~)L*fa0Xu73M]Vq=2S4~@(<t<Bp`$Z]-&/?$YeC&@~-=k5iJX3RG6+&Ba(*w|R=L#O/yB%l7j^cRC$?ra>/32-DG/kG
 :w<ec0fh7Q#J_hXXT6O0xu>*`Mpo#a2D/Pa>`g0pBAk-<LMUl=h<?ue:O1Lxd-]djEJ,4!fn3G$/zgwd0+q]JpUlEaKtvnmFwgRh$<ty0n@eP_2MXLM9cy~
 q4V_D3o^D($O4yk(5B6wx|#28c]x+$6KI0;==J$dOi0X|8X<?oT4A16A>Z4'ria-V($oc[@O!p)kGg]X?~ndeV_ob2&LYStth3>%P,zwClg_Fh4op3wn7zK
 tk8''[YZukL2C=Cu2>*+bci(f^K~UB]]Vk`PGU8X(?.!EEGPh/g1Di[e2,!q%f.VtOEcNr^ISZ0qGq-775x]h%yPp~KiP_'2-|,JQ*a#UlsO>A@*oMZtppD
 &9;k.&V[vW*8P-GF]r9_QU6JN$N?L*+nIGZ]h`]JC(47_%7XXJe<bT,]ubewae~rk#QN9Xe-6qKdk)*5=N$,Y+Z7d_4etwS'*A<g.$4L3j`=w*jMLK2(M&;
 4WkI`$e$>agjK@sVg!jS[kMBh<7C*4.E$L++B9oQ|=?Jg|YAs40Yty7Agh8'S%2YJPn1<?5~wii2:u|+~WWDwU,8f5~jpqIC][he<EZ<JQ;QZ>'TRjjQ/;9
 cN;YpU-H#dHiR)[1_x>A?l&v<cC@nlfBEr+O7QW<U+ECol`Rer0PkT*,gjQ]Z;tLKxc,E+;4h@M~$fo.2L;W3HVKZvWux_:A<3fmCZb>Oc34yem.3ulw:[+
 ^L'qkV(I?1T%h%<WYi]Fxok;s)O3ErH/Z;rD=)qOY:UWktl&GxRpCpmZU(:0zPN8#3|N#AEL=~Nb/_T`9D(PkKK,3'Pp+--qyV2!GOShng7M7b0,cP40iBx
 5YSW0CG8<[YC1,+u/k^ujD(ZS<U,-?;gCd'.bj[sn*H91Z$1KKf_ljCH6BLY+PM*5O8wkjhi(vV%xl*&L7!%;1l02-6H7>6#Ab]+@i;x$c6wbLhMKb4JIs-
 OoX<[w24,42$^~(r5snmxA6*uyTG4rX|622U_AL<NW;Z@Y&ncLie1X`aO#b3G;Mdf67CSL<)9XHXdwYHfQLgV~-Bz<vXGUOBS0et6$a)j])cyuPP6mqwe70
 Y5v~^o$'87)`3]f/F[4]Ik`!l'.Y!x]pa+ycY2-|g5a4O#R0FI(p$i.2WG4]?Un:Rfsl)q3,v<`Bu|j(3Hhk#7z'6*.|.vfYL]Z1De%4?_.54|?|%h3U:q%
 )[!L<fr_?L$,F16Vleu&$Nkwi[]1&j(k-23wWWBPms~T14Y#T68iR.f?U'~OtUbC./.?!AM5TZ2G-Z@_5)o2HCO>N9Io75/hk2u$wuxXP3uV>)T:oM.[%C~
 XHz7>>^fw!mg>l+8,[#d+B<JOMK'$jnPDO)nXkQmD|?2[.D%_`kZoDtcQI[v78[_,C[qQCX$,ty`AIMD[XwrUxaSE&:3`at9h?m0_yQIiqPSiG0*z;idI#r
 2sE4<5G-tEAa+hsrppBl:52jV)%itz9*K/2V)K-y~VYi>zP(Y>DRQuS?8%l'|F|$i%nxmipZp(]kwx]zy-8'EIMFJQ8;-qqBS<JU2;x)tRd,m.~cobl]n4G
 vFBRkTXgb%8|Xdu]((+ZQTIzQjhy+&ja66GL^;i1r5T3?T,&b/Q]suFx&G+VRO1Sl|/&Rd$j@0^yjS`diI..Y#`8d^QxqmZI~ZHG;u0o|&KL]B.2%KfD8Oi
 NO$_T&9g.C4)8&L<oi;adi#RMe/zEU|Oc4&ZLvEHu!RNhom0v5maVPD=z^LoxE7B^0g4^$hb`!l]%R`]PDU|/YSgLs|=O~4#Px++D`oAR|OYZdc$;CtO<)Z
 `lk^h97>=?mT~l!D:Eq=cLkmhPi%#0#%ij<4r[1|U3TC2_CQyg7EK:P8Q,#9^r2q.x%Nwo8a/rVuk<.2kXDHBc[SlooL^ArX@(NM$4r#oVac(~-VN?IkxSq
 kY2ZNrIsz&RKz*=:03O5:.5VdJ48N1n1nU))2X6%jf..nA5qiEQlXQfx2#3]vE7n>hqFMhyi6wx[cP'WAhg%g:IuR0+Nk[+@ZKUFp$z?eC5+Rt.k^:R3o^w
 <*&&b,U&9l8vyY<wpHCRWKfulcH6X2~F3EgU?EHNt5Q5G)ta]&-XLfqH0JyF1Hqz6*o#HNux/'-]+D=3hfAO-TOJhtY_=5<fQUY-~LKm4i>>@<P/BYCchmo
 Y*'T$8)tOov&]3jPoQS_2-0s@!`umd[w(StWw#b,'H'URwEq!#xkNPNDI5)h)t=leuQ]+5EEhPf!H:G6S=?*M385kv:f8ldLkZV0q>|H7`~?4sL&+oyT%u#
 QW5TUM6c)wvFlr9@+?_h8Lj3%N>+n,GQ9~*~'t*Mx//^_h?EngA7,NvJAFQ*Qr|$NJk(.N7rI.pPeItkug#Pj^Gj.ltiN<F+3;&I/2pn@PJcE_<<N,*q'By
 YTFze4k[;I:Uj/XG.0)|cn>nVb1M)lW=mn)OoMlb#+F>38)@<wj[p(e8UHWV#=W~&s2S)#=9xVHB3q;9Juay=r^6Tsgnj#gq;*4iDa:Hx7>Xz07pS')$crK
 obP/U^8`_BIP<a*PAx9ZhkI<ECs@H<tFXj2(2c!@p<F>6o?kFRB4Kp(aot`g@HelsO]3HB`Mrp&<&dq?<FMi)Bs6uDiQkyR31,*R_va7>;qm=@F$B3pZ>Ka
 FWu*Q89EYCfEk?vab1(%YB`<#I`QAfM`3q=/F)33b@,|jzGNdN+~_M|A'SE&::8|<t9EE`[]17$vxW,EN1Jz69/S649(_pag^]XBlk0YHBYn_G6*m&djgB)
 PbyQKLk-XQEK1z|AQ;I==2GB^qLpGCNp.6p<#_bi`^W!rZX'74|ker-#r9CV:+giU+nGG0OP@/qI3^|w.Xn0>@3nq/?x@d|T]qd[*X3Delo%[_#APdo91tz
 !2/7XF.O2`Qfl~7:_LFm+&-'haEtYe:~phyl+PO/n2D08r#jU(flTCL|KS0C4WRxFk/uslxlguWtYG~;,W;!/JQErch`<FMY=CoUm9!Ulg<g[QC;Y.M?d&o
 %$;I_xWrJG?[t7G'!-r|09Yq@PhTW$c?D;U#Ft5uz8s&Cu:r,8l0ZvJk$+Q[|5p><h>F_5#q:(Gzc2+R@>bJm_%:Dzz3wJ3%IZt)$xY70XAc!@7bkDzxDY5
 dV%9VRN[fc`UtQX'MEQ?cMbRMCgAow>@:Ua%+F3t*Vrnb'/Xj`ygt2HP4d9GB)accRn5h8CE|($s@*u6K9p1irD@1LJ9Y=xLbIJ;Sv^J:IccDbL,;hQ:tsg
 0M64+&candJM:#5nf1i!PQ7.f5R.|xcr!xc8o<:_R=H&nX`=KddW*;fW3OnH)X07WzM1=uD)41-NMk9k,En'5DRJOF[C0uN%wxiZY+9wor79xrsB%-xq`,;
 #7N[os+#ue>BTI(C`O6pz1FKHj;d?wm(%X8|Hbg%U?ytao(YV;[bzMvt3y+w4n!%<Lcq#IarM?CCq#PFDjhA`kCynBvj2%`hVSYxyM,h43<nIx)LI9UKkji
 p)E7/^Y&0&~6`(lL;^eCoSB%`+<MbA0cp]Hdo'2/|[W8Va))<@lK5PH/#]qe7HS2Zl=Nbi^[o_o(SlMIMX`j/6vmP:3cd<L##h<~OAxBa|hY.H<EqyH$ath
 CxlCL|_sEqV=q-02VuU@('wy'kPG2YEv[z@cwKz#N*5MxlcBC*Tnj^]?rP]fhOQHEZ'y)+E]J~eC7hCnQ$(h)N~|g>h@h@9quhW**sW$-Ipa's#Ifo[RA6e
 ^;l+wXOxDH'AP*>eZ*.U]<l2-b|/)jsfj%deQ/p=5RK#,I4):x;Ip>0/B0d|d.khtuE5]Ghi'5mj><X`QEh5zEe6cjR2[w65Hx7<Q)KZA~NdIH69Tc2>gl*
 N=MivLkb]Zp9XLl]~Q`xoH=J8b.&R~&#QXS=dAc_=gx>rz]=9`<h!+I~/!l$bGkYmQ9yNo%>Fhmq;fQ^%H4hjY1&tSOcDesK9h2~HAG!?L&C^nIUfsoRe^0
 jCSE&y2;Gph[d$+U)fQKV6$r]`Vb>P>E4fCi8k?Vmg5o;RLWCii*ffB4P4GHD,ve:-1,8.W[YfpK9R-G*/FiiZb:uAVayuk!Mm5'#S`lXmC3O-5e@WTUYA6
 _7uB8g.w*beH^WU>cKM<M,)IuYj0~G9-bVowv;lDzK92^t>J_y$Bu=UcrvYtjh5eMz_+,=zlj;~^dtfPWC8)5!Szx+ws;9~nmN-.%>K1P%RYgy/XF=l8kD:
 dR)d`xs:OZr7U]&./_hw(Tl?zN>y%NxzyL7cGdRq4o3[&#ESm|lFk`q+xMyr>^jk6uRxUI`LjTZ1t$Cp*A-59.r.T/7E~s4Uyog'q@dnj2?9mIPnUn6[|)'
 sX#lP>MLt,UF=JT02xg2i8Ye~QO#yiEVwCX/?QD?zZcjh2~@9plk@*9A~*021_X1/uD*!`,Zr|U(3[;BlVU73D3/O1ltquYAR/@~]d%6cQ3+djWB&mw$t(O
 p(@87FGi24r`y)?*Gx9*cL8M[sw5`0mKvC'u4fZLhIq|6-mdV2U=h>a%$9iwHGM]99@Sx=J~oaY<Bx*g8Vi/z1DsHQQ|8uZ2iNxKJw<:D(`-T|@5:QkmyrO
 ~^i3]Eqwy1l)>Pv9YLjBKAlz$rgB^40zDS%;G~'7YECu8;]~7,`7HJk[uCakq9Q0T6>_l(di67*#/jQb,Fl<d+LrB1:#(5cph>2NV/l5Z((AVk$iA#)WsR;
 wW|QXsZ8Y))@yeTyi'ry|68;c-oC!%:atiRV0YK?ST|;9^y80-?$BO>j3h,:bHO:YPps4iP@2WC,,r%S'B%s>^*zh9~HI(&Q;(F.QDEw3I[_j;rBv@wSfy8
 @0yvqY,teY[y2Bj/HF9$:Byeq!216fqB+*ar?+LA/n0e6cU^bJm0=GB3J=~ry:88%trE23!+lE^GGIi'JVoqXGp+1>SLAYI!Ewd0,`n.L!(p,je`s??W8rL
 )ojV`/lJ`|3UeTb&=|@'&|3~zv_7;jaWmOB4DQ'yFhDg|M8-HVvxP57$&b,?rm%^1hDy#Ov.SKLTaIfHr|ByzIq3Mpt$6mI7[zyU5&KyxHmOXvy~]+&@@wv
 YCS/<iPmcm!l/TXLOIo94#XO=CrsU<dIK/^B6FgMlg(vMWv.e1v`Nz`f/7O@SxOeu*MxfSY3wc*DP+:$e1>LZ!Xs%q2.69RL8?'TqC:!y[lsv&+Q=GJosrY
 q'xW)3zsa@M2T;[WUk]UGhn5@vLyCDzQk-y9lS=+?5(BrCJ:V@WEj^:iJUUf,'_Hr[fyn[*EnCBm%^1K0oWWCub:4#tUD_1B)((U!0s^m~ryS`~ca'6,@sD
 UL#hv6;w~yuV+h]IccD^1<]ZCb@??Ca&8H<cBFvoY5]au%R2egLu`y?hQ+%s&crI7z7l4fLJSLtm~BYRdf&Lwg;cL~>&m`+@uctzWjWd.UVX-kWL_SZMji'
 i4Qb>q1gLe3j.xg--v66V7+cp`?ZzfA.4w4>0Ejw?$Cq<eVTS%.*G=3z@ne5LCo=AOOcnS@ysEFJ86Fq!]q##t=_/VZ**xi`JSU2kf8muJ!!eTw%,auPMX;
 wH=jiz4A/p5]l!CjXXkiBq9qq,|*|4reT+/NRpl~#e).N%6.cF%>CR]LcBmWv`ZLwpmDd+:rW#6F0)v]347F3v<32MPniZ;;1-EYK_=$4TKreS`,MoULNV3
 x>3=:8xWZBD_tQPO]$=LZMHR7GKs>Vz6.*mBG[9-1$U_OdFNn2p)5Fej^9yDn/l>^8)5;_oE/+:dIzDdlt^=Jz'o6N8DQ9dq~mrre>c_G^~-H'0J45KEI|5
 WMm@jF_Kc:wC7G0IFn=uo9gB;hhc`9lX#1abe%ieHB0EF6#Lhvq)i@XaO0B.I)FRBvEpD0nta`NK=v|x4hC;i0#dzhZxuc9P^rg/x4uvkEt|'RJq>0s/nYb
 -HtJsHU$iUCq]k8X@+d0YP4bKq:R%zUz2SJMOFp.hLO=1biL(_3lZ|qH_V!eQt-MS_;q])kpp!'!)c-|H3'!'QHdMQ6'_0_W?--B'fHR-0FAK6=-x'#J.Lg
 1cy6tomf803:tJILu[k-!tc:yRb0g:O+WP<zvScFcJ1gbg'q`pmj#jLHP9-[?&+LF0M2=r7l>;Bv[fI*#iqK53#phT%]zK9pHYb|X'ga_bJ2|DYAy>5DKlH
 .TAA>`yd!s<~k:TX9?MGD.6kRB>:=avhpU02[(TCk`&z~h&p<3oZhZ1DVifD&fi_x>bI8iaZTN|Wa?<NnZK9.b*x_`9Ht5`nEGjN*#r4cuMd4-c&lH&Mezz
 [N=q[C'l8Qn^24_nzR3!|H635['qht(~XigM8ufM!@Cr>ZjwUT2h$UtFhiJGW0YSd8*gSa+X)P;$KuLfCsPJGPV'ItS~WW=<4Js3B&67|bZUU~Yq8'9J|IA
 3WXDyTxPrWdJ8,<A)pgStQb,aC~wq+8GH?[Rt4TV]k4)dBB~6H]C=:F5zhpNzwz2J%:uSfkjF-[iS&3uB/e8%IoM2cqjUj4y(Q*h_r#&vl4+!_Zz9_8CdX<
 ]bEsT^Q<Si+.WFv^8Bsw3w2*diQh87SQv*I.1:-DbnJ(]vrbgxieDl7VMP&RXyVdO2@uRF/kpoC8WqM.w_nP>FNnFy=&BD.IlX?5?aWqCG5Usxg.Rc;Q>)M
 9beZ%:a[[Ax5JqbcD:1`G4&wVM8Aw.H$o][5/`Z]g'QTr>Y1MV650igruBG:04xkb3x>tw8DhVU]l'n9$_<oF|Qobw!@=6^>eo=,pl1MQ0&8e)Mn/UPIS5c
 z?2G%'wrxfkAPL=Y+T9:Rc$f)NqGIpnag%)*L=5%2KrIc[(Wy:xE+$.sV:0Tv0YE83w47V.'$/>[U7ByfCfx26%mt;*fc4T`k~|q'Jl-vBQ>ECU[x_G+h2K
 >8,PG#-If`?EkSzNseeW[ld+xUp:t$VEx#Eu83u~t;lq<aJHA*Q6$.AGNB|YLtthd2qq<X9<<RT'Hg#KejEA.`daEUT:!;Q#=9o;3<,auGO$%'b%^SU_~Gz
 wY/eD-pq:A@D_zU;|&W1AfrT|Zr=-D&&K6U;PRP7BT;H#0x#`1PQDQvOV@2H$+rrsIH=AJ$pi<-0+IUES,-1]l8mo&G[!0q!6exVr*ae:rpruA#%`q5Q:ha
 FGyWAOlkMHJlzO91/]udb70!v0#j%~eR[~hjvryhs!WPFVpAkeI*wL^+-S)717[I,/=hE^xIveoRD?/oEx+b_naCqAd>nP3h@=_*I^,|$d~Ah.aH-KjjTNv
 %)Ngbw>y|9Dq,1pq]]9/NZi-hSVk;Gw=HZr(A`_N_Y9xh?<QDX*eiRF/N@Ao!QVXpH`v_(Wh?,AurIz%Tql4ne(zEA[&#:Y&Nk5M&*YkFD=yFI5WPg8%(,(
 ;BXu_5/99!GUOn4fK/Nb9OI?y7rIE5U+mR;CYCHS)`j!^>*$+,ll%1(_YA^ve&)1,~$h^Xl#d=rzS7!]xU2[-ZzIK-m4pP<Y0;0u*1Hme$BOMkDzg^gwBO0
 h$;=~0ewf@-e`FulMz.prPmPo$4Hx^'/NtmPB#|bnVf1BS_@S(-L,.Ujz!#iZy;zE82N4?p*;6(gk.Yx6m(bc>[|RtcI5L331j*.Kd1V@.L#joE)m1n4u)^
 ;kPph;bDyWp8yDI]-xwA[JaPK[cw[d|!iD;9xdwX7**wom4nVx?6sDS`&z'6K4wI9^#P.+27GFguk)5BOG]5xhr#paxWR:(wgGGADgm7YuL>M*172<Nz~(I
 8V@uRr&n-f!IKbQzz+,3bWLQ->d%c6KIVja8d'KV>En]P=IAP';7a0esY)akNw,Dg*l~)eD&p$p!/:2!H6Npl(W8gh3/l+=LTQ<<=NIq.aK-zuJv0jds'QU
 Z]f0qVYhQ9GVXN4AQCk%f3B.IuT)5k[;n8#@lgg%7:n$PoF'ZfYI*~e-a+L=WE72<14yrXWj+33a+V^J6hs;:*r7z$eHoDj.!!Gc~uVSqN~:,B90Lwf)*~~
 xst6|Mf_Z8<D[9mU$a7Pr.2qc?*tIPg%V(Vx9ej_k>Hbn%vmX7Fw,.BBy-)OwSqH(.yp?oE'x`]u''x(Q3G~U~7Qh|088S]S+Os<.;G,xS=S%:g6Bg[]YJW
 U7upui@BQSHpxZ'mj&o:?ReT|O/,s77-s$i;FBHh2w27hbNUkVBltc*%Bg0GK9o9M2`AWgPdI)*X/E;i-v^K+=Q.Mau`2>$zodVaF*BWev-FkC|h&x!eq9c
 UEn@f,0q.yXIxxnyeap#wl;AT5'*`$_1<A[(NHlL%*Ti%p8om|rbDG<;mepLSDwr%Sh),10ny0NUaQoH[,9Z!Q^=A$>IdL@L*C,%Fz0(<wvI-)-r#Hsi@+-
 #>vcttLpd#wd>BYu>#MUNidmJ$FvGYCZy,0uxBMsyeY(41Y/imH#s6C]EhWU-,udog)<L7j7n^E9i9v<J<3)=2Jf^?nfpEi<*'_ioR(c[Ur)?HpdCb8V<GF
 sYiiK.hPCt-S4<Y^Vr/BKwp/k-@.5)zEd/'BgZMt<Mum.]>PSvO_R>>&oY)>=em%L3o!pK#QOxm'5]bi~3F]WxTeO#L6Ia@2'MB1R(#<_KIT$W*j1s-JGz+
 G3boF1*FFRGMy2P_qfK5^f4uFf;NeQ&+U)v;H=`I!(|Mv>nlBCG<%9FC?q)%ITLU#g9fnWXndN|Diwg_ct+XNI=fE3F%'&7~<].nCp*M]NR7BB.KD'11bSu
 a#|L7n]!p[(2bRUFg=5hp3L:&`8=LOgBdhFQ~Ex4+N'Ti$v:4!w-Bjt)4:Ud1bUIQ9dIQab4pmG^/rTTnV>9:pwov!5[oz-*UEZe'7&Xua04fA~X0J;b,U~
 ~K_]B:^_4DrvKmJT^;&!RWX4,K#rZLon:&9n3sN2GI.4`Ega/ltrOIuSTF[wex-2%cRHhQB^VQrSUJQ>;@BBe*Z*[XW11J?mn`]fP3j6:)yTw4owG6'-cVn
 8z4hYv0tIqI+svsX7/mbtD*c+iU<<!4ZFYy:+P:8M@R<!O0XlZU;GA_:^qMT~Jz.|2]WO5U'Y^kJ$gJU*oLDC*KLmrUzd(Q>6VHWf#V-R55E~]UhNT3M!O&
 *e!7$ojQOK`dx`U*J;[URhubz>@Ah0v<[hhA]X3DMoQF$&+9Tw3pJ`OodRWWi<wI]'VW_,3VbpCOB%!vY:]M1O/9,Z/^|2U[M*=j#c^Qc`*<s+w?mtm(`n_
 Rh~,cJnmJHS1/R9'(*:I&LNk]hT%/0!vv9:HhVEch1cv0n?[pilKyf,vLe^vzL9XskE!M30.+D$9/n1iAFZjD=ZO%Mf%&^L%z8q>f_4~=pa2K(#i9$ir)Op
 LlyB7=whx^C@yj8nIANLWj(Ch2zXNRp`)hlaBYl!F]`;~]7pp3H,((])sP3c|?pO1Rd='+[Sa`9()E'#A$8^P@K#]NCuJlq8P[;>)._ZMrg-aLJA7|C@;u+
 f!N+h`1Ss#m])b`~^YcWNCXxR[fQ[<,:lPrf45THDhgr-C*[-i7EkBr?Su~!cb/$]gz4)/F8$S4xX&7,JyZ+joJgN?Eme!#VbvOC<&u/bvewH-1]ebyFOX%
 -]j):vofYxWA|-I]T1B5h%nJ)/l1:b>UI*,*y|92<XaTave?ie.e/e|$bg!@jZ/~V&k&k8?7~D*t]jK+1_[Dq32BF[LVv,#9Y|)yEfMgspQ=Wo.y:;s1cYK
 7_]^V93FBU:yagE_47|g3M'QC*/JLkTm3*2Du8zY`BPcYw)A=@8]J(qC(1)nK_zs'/eV3'@=Tm@yb<;6#riM?o_9c?p`L[JgUo.E=Ad(xA6_IFIwV'TDE[[
 3qFJnw(LGD[hgmT.FHqt0-_@s>[VRgH^h4(4S(prhj|6,:RVo8F$rgI?_0=];>_N/|;l~l`F(^>-0Z83i&3n(v]w0KuU<d)<(UUrc4TsEb?_'n*PZ1yO9im
 hS,?+'<Y!@if`-],Zbvu(x;)u~q%MX#mTo_MFx@h&hsJxue]`5J0b1*LHtzk@3Eosb(^l'=@CtI1NwU[zk@x|K$+v2thDd'2mM!sSyzC&&9zj~7kPD%gJYE
 O:M($8.w:@Iy4d~aE;yU(oj9jRkxlY;1$m)12URH#Y7%JtYP$m>-GXINk!LZqYRM0tmp4Bd-iJFpk7Am(43qYwY.B9.@|?qacdzvtD^[$+hnF';r<ZFf`8;
 pZm=Xt_7m1G?sj+<k@)NN'5(Gz]O%Fa-dAp$,cbHlS_Z@%M*3)DP]=Rwtq/xu'l-<^V*kH9UY4?7y]u60r`6pbGi#^Am0qoS1a@>(1'sa`x?W~J,um$MD?y
 H6hFn]]R!_2`VKf%zH5vdWrNmR<Ql;-0n`=_;lUX&DJLLVhY?k&c)S<GIQX9?^o.1J5a?E.Z6n;t2U/qi!x<5Wf)(i0*9[/a;kKKR1eLh=H-LrKG9EcYj]Q
 w9.uC^A1N;cM2XS):f587~WNTmz+O*m6o.&?%J'N|Q(<ECz~;4eSIVMMj(C!JK/-LUqV16,%4]WnZumb:LeiC8uvYTlVoh|^;H(xNV<q,^M++yw/ofXCZ$b
 E%]y;#Nq&dd<Q|JhZN$NzSU_`bX'sf~5/!xQ6`p$$N$rHXgw/Z7d=v3U!.DIfezdK[o=%'ulWqwU;1HFok6Pd#J[M)R[rt>yF!e'#Vn+d(V_'XZNx<eHjXP
 YJsb$N~5$b%p&_M/G#u=35|`*Zn,q=k'k!XXIh*%5^xSPFZ=W~yDBC)&a;OB'Q2:*%4wofz*984ukdyi(.us85MS'$hLru]GF,FQpN)Xo>BBccE<:kHIe<(
 -b1`W!V&^OQ*Gp.(fD6^.%#fSjDr@Js%9XYNSh],9iBF6LF(T%%4:#eP4hEc0td6U@lE:7I*$jZSPK3Y9Bj35.;9Ho1@z^';hw4nHc7|BrPla+:RTi9lcJE
 76;:yRuHu?z7TW?is$Zf1furR&0&#OU|&1H#;dd%_5I%k):Z]yulUk4uzZ;*y1OVkQuN|E8?vZf~i1NCVxW7N7lc-z:;&N:0YQ$+xdeJc3?xNamHHBfX)cA
 ;zv]!1ePZDGaMdpH:cQS@0|FN6R(:T*+h++*]v0?*h'GXNo1b'?wwpZ[5vqpF9r!oRUbhN3)LGV|!r[Tig.4I1im+%:|Y/v3006g.xVOa=WwGlZ9ty>3=,J
 (U2RK>9:tVoVbDE..nIUWKhAk_U4K<z#M$BNDQff$[F>=49*QU~RkkHjnO,r>?d&4@Dj;3;BsHc]II##apG&9J'?+I<@vf,%J-0Z;WoD::^XC%G~YHm+Ti9
 !#cgPP7Ywe?)QP)pbAe9cG``d-e3B`8.,=.=W)IyL^FlY$~au~iqTZIs6yzUc**5FGi*|-%/?KuVBv*A6>CNP8AkuJj`U4mda&z%tbPq!VtpB[Csg(0a?;,
 O;oj*FVY#Zj4Mehq?b@5(,Q2Taj,WV1;H1+=T@:bpKQY5gk96.y+(#7T1@5]7ES`h~YIgvT1x+!PP;o]uZ?ZecuO@jS/5ROlEbe'<_c~2KbHZ<&k.1K:TXb
 adN-]yS@_y=;6)eyffadRT]lScQbpB[Ifqh.MRV0fxZ)my#&!jX5EsNs+4$cn'Ri+S|G-lM-zGqFK!cir6)N7poj-enJ-iIx1cTr]T1@j+/4M;|0+D)JK(`
 TdIf9z#(r8tmu!V*d//1(IbM$%|xWaUl(`tC;%gvNn5#A&$yM&-9:TQs4wPe8?v_P$fIYPN;LEHz~]r9qv(Z!gwG8yfrhG*?_Lp./i0zy)i2WT=[c+zHi8?
 mf(=Eg*J3>OC@W$S%1c/TX!sJiE*KfO'=7jzQa]p2*YO8zZ)z8(a^H1d'^%#=+oCP,jbexP#l>ZAgS^5#Gi_I6Qd<bp[uo5Az;oW'/|@`pd(kFI$*z9iw4T
 x/VNej5`Dy/nm_HC|Mi/IX^ATV9zo6'2!C48?Gwqhs~l~;m)=1MUXwDZCj;EUDP7#W~E&MwGEB1fIA<uhF2O+~l3>)])ODXHI6`wmemWg<i|<@Fi?:MpRC|
 l3L=d'y.xh]OFu-!c+%uh/?']'axMHSaQ7C(.^=$0V.uCxL/@zodK(lq=XG?HL'khi7M4bymUzUw:2..|hEbvkyKW6ckR%2ny;BYaR?X4=67e%P,jO]`X_*
 xJ?3`(dlX-'5?%lS'z_~-pXn=aVZ.CUs?f`dU9V@h)G8`M9Yb,W;S~Le@gVGd4_JQ&[0ou>9(:-+y:(/)6a,N19WU[14+~=lDtk+?d]oO?GSKwWUD*WY71g
 c|]gkD>b!fparJ-OKrhp(I#yqX>i/'aU1GbAiJLz$MxfR?oGR]wW1k_k7LEr86e[-E,P6sTvy/Xx%P_]P8;:+nm4NP3dt9mE~z|yTW8j?+6+S~~GGV)/lS_
 eQHLEr>w[F7Bwq7`fR-|7X>%EwgS9p(;L4,$$zkcK(>p&fQ^kcgc]t|<mG)*wjBEhQxDS*nha1l5vl?2F^3~QS&u+p=)n%S'=$Ap6((lE'0OZo0c9gX`WE^
 4NY/<fqNTQNfkNjjFO3QyN<X2njp`q*;82d5e4;J_;RL%3@N@<%y2@o|7Qba(yw$-$LxYMx#r2`-fo4f?;2^r+Bv*[dIxS/hw$@k9Yi`LJHy-5M9UoJNrBx
 :XLT5YATlk<Wf#:~lS]V.Nbg%v1ls6I'<L;pN|R@R_u[cWU?)$hL>z*Q[Oce`k!5O+f^aU=x~IcjE79uX18O>+]/,G:,->%-<F5QL/R+OF^($!equ>?'fvd
 V%aqi68P@J)cxclNtR@?k=^u5eW!b?n@qW8a/FKml3l.whAp+>Gs0h-j%=Sb?hhK@3*[0$roDu+Ma4kbcJm)Z,r4H=>M7h83!!7it<sf~&KeyLZu)t%FVvU
 >j2EDW,#:V54CVJ7whDWm%S/IKk<8BGZ+yFlmg#49KRXD9F6NSWgvYQ!;.OAtfmool1)]/;2-vonWZ_bszxy,+,4:sUL8NDu;G7HiR&Me6jKvWUxOLT2l~1
 R.j>&=M1pv|'cLDq$*TSNvb6sAQ;.`]z?+u#_;kz85>i=U[!*sL!U45WkY%[`qSgi*!-UL?`Tqt~0L4RCs6MPa>A!$vir~l'Fw0z~P.#'=d%7*S42<o%rxr
 ($qMdSTBU_1v#VuY@W&h&4+`5t7RuT@t.DC^ht9yA1jVC8rP=5BL+kc4b:X_l1dR#WF'D7oiM-q.FP%igN=8>ksZaHuUs#/~E<&Phhks~UCtjz/'zo-nYsy
 Dx0&hY.Xs`T]/=d+&?Fm``d3<#n,CxP'qYo?nj@(?l2Ovt`(,tJA.weH^;KL$iGk(DQ0QR674)1;y<AJSuF$t#?hFdl-iqG_(GcPR/N28;Wj2[jA%j'=`,1
 *yT~6UbeXczv)18%B|hZW&L%$`4BW<YdW6^([pik#h44yThE7kQ)_[Nt`>bVT<)d34./%>/|+aZV3r'.>]B?Dz`8dQOY_eL$:;JSE*iPcW3<]x8^oCiZSa0
 Q'wJ=WyOF>7cf@FwVwTN~/l)2U7P?6.)82`kj`X%XhO]qH[-QV<'&yNw%i%4'zB!+~A(:sYIos='R%~'Au!kTQ'+8BF6ImXIi&ujee-z;9ok6cixi>/j7NC
 zT|JFgkoE-bTc)/j5NbJTmW*^6H(/U&wNNL!a<!::kI#aN8Q#8hQ&@7tCFRZ)9Y_%wuWwADMQ6&1aFI=W2lO<9[CW'o:Dv2kn=eY___d;l&b#~<M>zYT#`^
 LiS7,CK4pmoXc@Ckp*^>QkbtNdjF`.UilZqv2xy@,(#[m5C<|-|!9D^=Z*%t~w_NHQ&uL8FbepcN9bgY]&vpv#4Go$|Z0AT!M]`sJGn#_l_woXtp1#XVEyD
 lkL.dgr#NKLdVRA%5%#h+hKr(ahqhZ[dr!j#obS;T/<g0*CTt8#<WuJ6^y%<!qc]o#G%3r`>t/!-<`;[CO11+C2*'hfTv&SI@VHPJu[J?vCP-!nA$:a;K_@
 /prl/UuMB~?N@9]PIPxZ,pQP|d^(<x$iTTHi&bnV=Y][2WNv$64wYD)[s-Adqwk~%n#rS~-gV4B0bz<uLQ2^Vj<]&at~4_dx1aq?~ro0OZr2D&))GxW'fN3
 `5X)A`]7^'@?e+D/QRaGL8QK&wvKc94&u6~`61K&cKVA+t?FhNE7m^$SHKc7s/V.H~3uh6jRdqV]k<]C5uZL'RW^;i<Ix*_q(&+(r3AqeY!aRzS$IIc4e9a
 rz&xd7?K[9luP([HUu9:NKtfifC[H,IRQ2x<852po/*4Z&@tF:>#AMNSrd+])+DREVucw.x+VsVd!kC?x%Zc?IWFkB9uVrf@ni;p%M(6*<R5LjzKe&E`NX%
 e#k)T-LjL/s+~gpcj@-65;KGT>s>VeeFH`0oHx2)FWaY%5|zl`+K,&,%z/&LRlFfY+r4@181/$krr:,_Sg+AZ1gO5~KK;Fb5IOcy'l0?IF[]ZH-`J5wJ12'
 gwyE.ZV,6|<^iIPW=JSGs8DWmV,O/TX<ppnF+FxU$&*K(*78[R-IRz4N#pB.md.7nwrX5P/)WGkR)Q?vQ7COSRK(u8'D)1)nOY8Hv4L#gw?g2F</4_c,%Y)
 wTK(EmnJm'c0j'us8r8cR=TOKdjW|K'AL<@oC7UE,|_yl<#pfFi7'w/Uf(;6U<<<4-Er##P#y(xQVeUsLO;Xqc:8b9+-Q(Q|JU^f~7r8do~*o!Q/PILUy)e
 jH^UxXen(%YDig^L='OpvpIs!_no#TVb2SD81!%Od@m]6o7M:M@/qSEK!SnA%Go~~0q53kpNv+n&49H~+#)#9r.yuOv+.?vzXFoZKe2,=UFu8f5@(FW+@#a
 .q|p6u8Pf'H@ks5Y98m#K4Jfut5k2'-LR$aZ^Z_tT;[1$frSm/t]XMV~q-$8(]CC&-'Vwzdj3Z/jNv?js9Sv&y~*ca@qUUsW:1u=EsuMo9r[hiz@cTR+|e8
 Pk4onm)HO#S:F$tqI2Ni%WWbiQSrTcqLNrwt+x7N&0i_JLe>T),DHT?]&qXQCb<R$Gy+1XN1'fq<9,K+%c63zATh>pO>`HSk1(98|yjup$[ezpVF%;KfEEQ
 ,qZ~n&n!jgdWtj`5f[3%7No'H^XBVZ^W`hP+9<NP!*)SCG0(Q+h]^4yQwqI[%6#fK6BABa1u_]e9_Wcq(4-&Y:VAVd&~xf,;be>~o[M.F=9$)5n,l=OrihE
 V$Oz|PZz6et/.T:S'_;uK(g-76Zj+Y^o8R6gES6!gc7TdO_gv*Mh1HcTGetS2.kV3Op@lx%IN5d.FqCqu6O#=JU@*'H&T7[,tnx):BNny)c@=`A.[sGv7;7
 G#TD[6MfeXu1*WJuF_(1u6IuY|~P%lDHfgAiH98FRh/]N-d^4eC%eJvx!<dN7<vP$hR9V*n^NcurAPaDEl'?TFYvD:Y4>gZEPgOy4abc^B9=9i12B~CKb;T
 0)cp#'4OXVacV[?BD7qc,f`:**=p@x&u+e<H-[LMR.[CtO@U(m|CxF2Obj5XNykCPO!Z@6mtiI9#lIC7g8G>;8G:WJ>EYr'cB~IP][>8zqA687++M~~xLU/
 4gj#Fx^,7d-rcBCL|Y4.3f*ja*s/*7]rvpDoT4>zL'$,ORx>8U@u+_v%rCDm0o_7'p/aRXF2vz0Ql%XsAOfl(6qPEA/K)9A22W&iDG(u3wt`!wy=tL^wL].
 (N:08Z3%flI|?!Puo72>@U&[$u4,P<#B'n_uXzsLzkhObw0uZru9zqWLi78)-=!qn7Ye+-9_]]r6<6~|Wxq!fx8x_I.9I.oFMrr*wjzW*/)[~:rLUKMfkOL
 zgtP;.0#E$-9,WcDJcC><]>rE3VTpMV4uQ>v&KsQen=;6%xjC[piofNby]njK/=%GUp'mA~O6dCuF8:,n'$%%|(#/6'59>`q**Yuj8gd!9M$GwD&Umd:NWP
 %;g?Amy)1U|@`?OgsB3.Clb3(C^`d>b&sz-)KZc;Fb3e?YjoQ>%T0<^KF(Q+bp0EMU9hFm%D3^C83=0r:g^,/x&_z;Sm/M5KsZSCUaui[?Q<eWEVgoRRcYU
 @]M(U>HVVthXUo!|<4>lLyz5!N8#_or&*%cK~0:)dikMz.us9QGDqe3>mVz)hX[]CLizw=XdO*hj:Of_B4(,>.QcxTgLdzx@:+wD,1BCPH7H6t?3Vff1'wf
 [|y=.V#vLCS9phn`dvIsW+r6cRXM98N.8m7v^YvLL%s)Y~0!pK-[m$f%wAeGS1U(AKV&hn]~[3B?s?kX]+OffCXE|U^,L3e1e,=|_bG1'_(hNig!3=&xLOj
 j!fgsnYd!'Wbrv4FJTO7>PG%s?jBdBQ0tkunk2:#v;S~>BYRcJ?VcfghRfL.I|IK=NfrD?WCzWRm-L`bzXpa9*>?=,Nu5=;tu0`Toj,:aOy=xx,oDtLpC7R
 iG[p?-DX;scY^xNZFAYS1n'<6p91S,%c5cGg&B7eR9iM&Z;1.ckcP1,Gp<&1qoek_2e|8t$njrZA1a<n`)@U!?@CyRNhU?_RE5#4hQh)84N];(pAP[7`Gcj
 p~VKRq/mm,?gO5^MLCT*z70>5n4uvdqX3yQ1e8^+3K=[!B!S?b^sVR9L^l+eYb2,ujtwC*r7Q2]#m2|*ZS5u4yYx.ZK)Lw5/x|[npX!j+)a7euMy?.&Mr$T
 `sKX&B|?iLA@|p4o590K_:7Db~ovP65)Vydz_$w/-3L&Z91~T>[s8HlIUGEa9@#t%yqcX7fY$C!ri>F]k:^Q%w]66Gc[<hN&A&0cz;Ru&5P/Z9E;rgK4qUi
 NDnaB!n:z!b~=b`G~N*:2w9m%>!|S.|LUGcV;e0a`BHf9EdGcS%z/wi@CrMNB>~.nGf(JbC6_vop>pW17gCBR'Szw1U|6hw<zkIWfl=lB_ytTRQ8Kpu`n$0
 C|+)/Nk1R.'pyv(-m7(Z4_8Kn0~?J~|7:Z,;q?iU1sqc2c.UHq0!$6Au3axzah#py(z23k~D#i%#uOrxj/vPHUnmXD6L>I/nw-EfcRm7[9,>h|OrWh>8/p$
 $.[3(zh'^UYqC>Wsg?TDR3oB[f+qsHC-nuY5&Sf8gIOiBYu,Uvt)=|jF!tFUnex,+FEc)XGqq=%V[B4>9gyaO/s1)Yz[3,L-m1sX][z%u!=jkGXeGy#bouI
 xnO/qae#du&&2|#lEVY~3F@8B9pG+:V<<B1A~K`Xc2L(KL:V&xC70FO$.T,G,1XFN_.g$8^#z:iB']HP!uDyN;Mfs8(4TQt)P$mL*@3*t~s8I/dD~jhn=M-
 Tmfsr:xxDe/q)BuHdZosIX*i'o#Q~sb[eYRpzsOkBLSA&u*zw(L%KQ9'Uypqv8$$l|vKE,$c[M/YYwVNl=rJ3#vx7*'=F;=fA&bvf#UJ$D&@;3%B[[FBiyi
 IF<qauy[Qlk:|(h5'^eB/Kal@5Zq@=td8@:m#*1&aIcn8v*$A<^i9RC@W^y;1#dTnJ@&.t='L@ZqTaJ>m!=K$`WdW[W;7YrgA7]2ivzwi3H+8`.#UGPS5)=
 :o_tKKyrDs6NK+J3?!oF6wb39'_/pk/$aAcgXTXVv2?3oQ~MY^TCH4sC2'g['_bDs[D<i$0$VlRbpAElOJ(zj^]`V#zRf?oG$@hXvPW5mB#Hh%~nGr4*9!^
 1p*v>%%!uj$RO~zv_vIRg5Bv54Q#n@e)i3!QA8n2yCbUO!?gk>k~hYBQ%6'A;/%gKM1O!BSQ0PPoYjXV&k)(ddq@hH)Y_xeBg7of6W?naZ'$Xmt`~MOofnj
 P(Jg@Y*eUm@bw=,MOBwC90t~@+xss8V;EDj%qo_bYu*9?0P_CzWs53-m#!::eZ#q@]>_mRO@Zpc`e0Bj$8VK`=<wWv_b4Jyq3SIo8ezJnxo1Ix#!pS!XoPJ
 y|#v^$T4x-;UNH+,uD6zbC]+CAD:x4sW&v&J(++2m*6:N.I5:]=Sl.BM'2TX;)*t;bw[~^?+(ZaT%anXP0'34rfPw$8_w:r>_-SGECIoht7`j]K'k]qPgE_
 grcqOr4VwpqlNH|8s[Vh7=P9/#!kG$BYFZB'0wI6Kw,,nRsufu+VOF5laL#,T=Amx*SBkaJk~PtwR[X1SB#FAqgdZ,y?m3:+L*ktHrr5peyX4Td4nqd?k`;
 HH[9#jFw&^cP<K<@+.snAra!%d=7c!i.Db^`zc~&IoPpk=0bFbQ<t'*];UwUC~u:$a+P<jK*9'g$!pERK&r<>u3SS1ZRV?PnQhR5YLQ'K970KL1>T=cvRiE
 OWS0(/3[hufQj;~`,$q+m_Gis/>7%lblSSNcESfvpE)(97tQ)i]tTLv0(2?>N)vpG.:-:'n[ULRuqdz0Gdq$y@gkc!K++#I8H1VRSL*O(mJ?tv/6Ddm>pNp
 z]gJ(Ba+1RZt#P;(~q<89ovsMl2~.u|,lK>t9hYPE8~X_|SN]09Um#]QA6H1aC2B&+%uo8]4.RgLX`2'~Yt(-1bO-B[4@@Y/j_D(Xz8ejak1R,u!G&+rF/J
 4+E4xU-Hb1aD&?~YF2<_hT~RmBppq~R|,csib;D0V)`]Jf+l$pm>H7:XoSN[Kfo6n|STtk!+hR)P02F4'w6MDE<t@8obYq/0<9f_cfK~((DDn5+>,/Ra+WV
 RG/qba*uglGXWkY0.V9.Y4~&NOKyvH|14H|X_]eE/@jwrtHW*8$EOWi$K$GG.X,Mzd~El`]YAujG[|P.)Z_SGXy;N3w?sKHP?ghs?20|AWA'QhVw$6Yc@#F
 0R~NmiI,<>pis'>9IJI%`j1QATH(q-i+H<Unk.&'vcA?z7o.DC8@>n9cW9g1?.1Jq_9<H6-|SZ22vuRd_im-Q#P%yJ+!.2z4$!a%;X^R&xA<iONy'#M5F;c
 2&2#~*eF.rM'bC,o9<l?QQufFh)*glGINoQ%?.yL;Vn?Y+c#|(N63:#4H07s>l5?0RYw1CI=w8PT5Fy376zuTeYmpQUe4!t,ey9#K,lA;t-%cXbxh~ILvAK
 BUed<[0Dj6Nvzk_sK<x=!VSH3adWOa>?T@5|oqpm5H+5Cs%R8a9@K]m7~1_mC8lHC`|ID=g.+#i)j-1-[P8pk%izLYu1[lRcX~2<iY_!-SB6P^.g>Kbp,]`
 3d(5q%RZLv[KU@~t@vI>=Q*X#6?:0f4_ox0QjH|uAtt+&sXm]#'Vx;@kCe[gr=z5Gp-->6ax,.CoXk3'WS_uB_qGSxNFPk,p#MCu^=u?twdmA$*f,sNbi+B
 +<j]1N6iK^-,/!q%Tq<.G.$ZEZ<_vd%gzry04n`-!tpr>Rcs?d[P$:k~p%%.PZ&JxzVMooQ`-V?NU'`LK/>r'OUw]uONNPv8*SKIUKvEN)'`2,X)y$?<>k.
 ;@Osf5O1&@.D57!|qN_Ozu`>zq&/KVX&:#KXLC>U#%w(]nWK@]p+tUu+c.k~pay;4y?)!ZaGDq6F+sCMp&7%wO?r7=!?[l<Ry0qj#H~wiqA63ld'$^KmSPw
 R#%ZMv%I3w68gxXuRU[:-eN0dskd9f06aE]8y5AT;(k03]SL=c@.Huq78gJ-jiRN'iW_)X-g?`L<)d<qkdYmiS3qT~DLL3cr_Gh($#9D?-Jt]:Mxb$;Ju53
 ;&&Juj1A$Q/]Y^bN~!)p/k:[U$GB[PGOmXnBN)2*f)0C|Ng*Os[?Qru1q@Ni|,@T+Pt1;_nI_/TfD9oMU8-,BV3mQf1a&fuO|7lRk1^ok8^I~<HshmabDav
 9IO6|)$|z%qeif`?HWtDPQsDbW/5j`!WbM0xK[btSxItL0KgX4ZsteA3j8SNQ4n,*RLW^,%m*PtevD%>CmUA^eivts~36PBdtBv2qKM;:=!ZyE46'ezA7D7
 G-|eU1`zy%Oj>IQm@bunfWo@4=]1wS^I99^49@;J45gLu-[H6w)~Pm#QZ~a:%'uX4^p>*B*mV.%vR~n#=]|9y<^7X-PF/.xsc%Xq;.,<.!!vK'h/5W2BH;s
 shYoVs'?jR5FU|'/%8_Hfz|09bov$F*hF09>3iK@TaquzP)N4DjT).TwFAP46U?3K@Q+qFRh&Kdzgl/[:Yngm,^peF/FQJconh>w5vF^)nATbiYd.3zay.x
 pRT:'u&8R*Ekaz8Od%hLPxu)Xze2+3m^%r3dxFC.$Gb!tB$`[CT'>,)EN$.96+<dD/3kzVBvO!dY+nBq_9wV:02,44)^$9BS&:7[#!1vL=^Hu@zvN(gigEk
 ]Lq53O^!R7]7S[32nqzU]Wcq@^y-[8PU]q];XV`]GnG<q_ouZdlzGqGQ~1`Z8:k-c-(+fBZ^p.9[$qy^xB8Ct2h^y=X_HvEm5U.X7b.B$+6.Wjhw=Aj5T7V
 :2TwwU-mgsV6Zy]ROpy:$;laT$z8vDige0[l`Ikx%v5FvQ>2fu=Iw:G9l7%V<5g3I@KYr7?#xQ$mgN%Us1'RiFT-Fa~F:7Re<]=@GvEc^NUF:auf]vy$'s;
 aB_*&LgHP@ztty3u&2vgd&J=-]iO[=x-Z3KhyPI)pH?lS$OHN]gOhc`<$M&&uv?Lqp^eHn%tkG-VR1guCI<D9U[TnBtXduzPvT`SZ)BnAQxW`pcI#Ze)+>M
 0q*8KNRNos_Bi~%hHpm3*s3>7IOJeIOaH8:2v`nv8a4m=7bp<YR`CRM0t8A!&;u/m+u(&<w$E^*[@l4>nza;(#hWiWHkE.CbKc1,0-$*I6h[z5Y6j2M$U#r
 lx?Vy*yAR^nI7:(EF5,;IF@RO[bLsM68@[%w&Y/6$@*;2F@7pJFn;KA&9NwzaT=fYopX:]T*m,2|,Z!r_LQ(;~P;M5q?7naL*`uD'ih>#?UG3(:lTR-w%W6
 )S9)J~b^df:M2C6t<X>t~[[1jDcbSHpPy0(KN,GUR&VVv(]n]$g;xMo`V]0HyIKWk>D^9*dBZ!m^3,&^?FscBy7!Wc7J8+T<NPxDNfpMgX$IG9ECNFR;zUk
 gJ]Q_Y^|n()K1W2ieF#?.6]ghMYehs]k`g?%R)cHlY)S_`bJ:[Kguq#qht_9,s;+ubcHkUv8HipX*eB7,@9|-PUH%AuDQ<'^]'KOEx#0tJ&s+B*Q*hg9hC@
 BV<Gt^z+Zl3AVt/8gc<Rn=qah><-pvG&4Fmx0,&mQN$(L=EUQ,kY)g~u[-sKKhqZaX@sJJ0/Eh<CdU_A9R2^4.XTUZ5$$>D)w1'Aq!sP]N&?l^q*c9V5dmj
 bz&|vt`<l-lhbcN(j=J>?-%288m8ta;I+FFFGAsWd,-r4u1iXiOKc]i~W-ODxm|cdq[;Kj*W<4q!f,LB13nUQBw[tz]/h(AVBnRZ'B7#1)fhn$j6[nX_0v'
 6|*CLRiH9bC1OIUnk-H>q(1Fub!'*g^`39>C$1o3F[RejER?SKRiIHe4s+(hNQO0g!#+78sD;=^>JKbk%3?v:TSbgs.2<66NZ<EU*.s:/V,WSuzvn>||.4q
 bZ*9`ZFgGE.$_Aj4fN@N'CPKs(,Vu9RzHTF)PXQ9FpX[Tn&`#^1A)fzw_41q!kE+CS(D8w4T4JcWjP]q#+]7J=1M#~j)R9=m-vumyn~[7H-3]ROiUrHd~%c
 E7wMycxtl)d2T8xdO5iowgOOFl<i#<3`W*4ef'k<JNL)grtk?%:&w8,5G.cB0P9uM-?[yf<4vQ|+7pb9/<m57K-lzpb~n<jC[=eL@'dh(57?)dqTvrgKaWG
 KLT2!dIWajvaFyqlXaF/6?MIwW_ZAUJRo^%;TT)B'brbSx3e(b'>>nzw]LBJ8n_Mv,TqNMc<ZM?W`I-T22j]&$,xW|,[ZDOmNYu3iY]e_`~)fI84i]5Gi8O
 *.)L:Xs#3=>8%8/lZC-]|O3oNrfXLeJt$&uf[:RV(4VNo]sa1._T2GKwYE1^J/8'ouaZ5]oxOZvgWHANRj!~>t|gh)<|]aAF9IuqSj=50QyxU%HNf-^&5-L
 30D)(V,$|a4aG57dCi7J>i>#zisW~Q8D6yYLv7~(A&V/@[iA:XfwsaNzw]t~h'ruy^~/Elu6GC7=6o*FY!VqLF<+6~i?C!jfO;I=0jx^bV?P`X,5ud4gRGs
 qYWWB.@&dDCU/9w=zUF(vIKtx0z4-r`3'#h^<tH5[=dN|9R^|0[4<vY>Y>Xk+zOK3U6:osrmaxSpOux*0q0C8erMG#a,HWT]Ndxmo8Kc#B7[Oq+03~cOHKQ
 v-b:DL*q;,q3_cb]SqdiUAA>);fN0;'b4=d'fHg*f6ZU==<`M-z3De16SeW+z:@~`gfU?eIbwM2%df&0Z;(jA0:w>V(P7aOW9['TvG'=':?9T;,Tbe`1!8P
 6w|&*YcYK6Yneo7.5HYNU!azUia8rx]zg[q!W*oCE>BND;sAiVGqxTLg~[a5*qivD^<t4|ZE(Ch5<~cguVc@jEdtn<&egI/2-tFSwI2BX?739sqAfgi0;Qn
 3Z%uG6G5|@PKj@q<kH~1Gwo/j!0?t5b3^~i+_J6.bGhyW|4iOY<rXGwhCY):Dw]cX5qBv.>M_ch&I`L^|n@($tgbH=;(bZ3&UkjYcw['[(o8W,=<]`Er(57
 U&!z?^a5?FyZn>5J1+c)t8+PT.-LgFN(e]LSfp_i+|`DFV>Ll.qzUH9aMlmtQMF(4rCrFrx8e]U~(q`bv%HVd6p$j!@?TW+jecTh5LMwdo0r2`_ejf@hgWa
 87RH>]WgF@y1>F121oH3]k<hs0FmvDH>MNK'f=P-U--Qg2Md$)UD!9n7E+e_]d^|@>c+-U#J/$CAnwuMQ_-FUA'IVM:JTtLk0?IE@Iz_]oOGuo>MAWcwKy-
 fB7N|`n`pWGXKi:(*G/Ke7cXSA&t#(_(_ol9Epj]ECEa9pR'Gscc0f@t|NwiW/m$~x$HaMKIqi!E0xVf%D10=^JZ^PaG>Jygm:Ver3rD=w;qama@.4CGD0M
 !$C[LdMao+)'NEaqlQehJTfiI0NC8BVp6]:RQBQMn?DDQR+JB[@j8C['Aiwn13;L+tfd@9C3dgV|4iS-y8GGJEZDlJ#jen5)+4m7O9dB,OG)k'L;F%oG:W=
 P2Y%cN+tK[FkZNP0l9H@+3j!;s~)`eyqUX<L~Ooo$Mh/nza,WYIRBR~lI;3,m@y`ocxdu-Gt5,u$iIR-Y*k3]ut;Ls@7,`IiBqj!7iM9|8j[aJb7vMIX0>L
 If|4N*y0/?J1L!#5|RP,luki^,Z%S0:&@(`6eF]O*5*:z5|qaa&=o_Rb$~eG]gsEYv,PSV4rJ)rMhm9?|ZT?j7`NiSIU`S6l$@~,iHp~~1~T$Yx$=PJj>,d
 zTJiXg'T$@f[BzUM9^PG<3^07WJ=_f&7$ui6'Km5yx(Qa4`LJ<JmhT^>/QB.*V!f&uz2kjhqP/ex*r3BRom~ju:T6,cfGy(z>ircHl<#;@#xo>B-BDt|>1x
 =?@CF<c2L~%SMaj~kQbA-^-MeAx/Qq0LMr`Nz@vc73Y<%T!e#r/AyDlRdRq!J94:.:r(m'8t!g:C75s4]Mn&Os2qJA&OY:_LO1fIz*<:Q9^^JSUQ@.K+2eu
 [!aW=Me!<&Z!T.Lkd>w3_$CuG3IW?L|Hr(k6meeh5emi~h=<jU*QkaZHt0+De)4.S,xpL7g^v>-|B.ut.[)5lRrl.~[ONJQD@hy=xHqI]vr2oz:FN#++PPD
 s_bpZ%bDRT1Nh,5KY~BHi[)BTB?bh)@h!;a44D:C+dTkX(MOMG(-Hs-h9OJRAMjBN2S4Vo:bcDf=EUH5D`0[Jbg*&?fWz@qgs?H`t'.SHH[jQ-@?1Jd6r%@
 CaEAgxvPc:jkDg]lc1Q5&5)+#L]O.#GSU:%OsT,3E[_r~@9$FB*'Eg+=UC9&65=G@lr0t*xCkUHuM_A'2FMe|$^x%1iUq6$,`mH2#dRM(X1phI,hFnr`%=k
 TkVrr3t`.4./AyzOsl%*wSXXMg~wv#|+<EDOx4prc?WpnAo$Rio''hWqImzVw|Y0k~vqv<^QQBY0XbEe)yZWB_lj$r|7GS-b$b&w+&i.aV22#u$P8pOK=hC
 S`zV5C7;&.ld$nZoW-AC8D^ZQ36eY*k=<M8(-dT!KKEC8b/`5iNVQ)g@$V03yf&/X(FJP'SITpDh&rTX8yN)<<(#6zze4Y4%.lY_DV^WT)u6n:|sk&d%#>r
 tF/=!176+`.T:d?W$@eOIbT:-EQ#_hCZG<JWDw>KE|AqX-CiL4%S$b3e4EyL'Bjv.:kdCg+qm;!T%M0)9HAx=d5<r<J1iXv>.as80(P?IJOIgdZz=<^B0__
 Y-F-/PeG/;+>w#~]'DIFMF,3#bpiC0^_2^W>3AQLdo;.i#7vMlHkY?8'7wmz!I@Xp^6mq1B5YAyM+LS%mNjVgo>icSy/Oxp|Qw|$#&D8%Z'3X|Q?XF.Ba^g
 DY84>ixxG##_E;&&!AX8_8K<=e#b.0QKSJ5&<c/OYTi;sg5FJ$M(;l)v4:z/m!15fr5KlUu~JifapsAre|gngy6wvaSpn^Mt()<@lgUO~8mcY+`/'S;IdmT
 BMm&!(YNucol'D&aH)RqVv$WiMI@q@/Kc)KL;!Iz]v_v%q**;EWrm.W1cE[%IP/%5]2OWccgb?Y?Y']U[Et@9-GXajOH8C)zyOzQfv+k<DnEgSm$|6J(N5n
 dN&We$%6Z0>XPwO*O8rEE53ZRZJHknD$Xn^1kP%vm[NT0q$YNcp-uR:dBqy|0Rf<j=]to#*%Z/aN]3zm>6T//wgm<ffHX^:XT/lk;mR^IoTe@&@_Z2`UDMu
 !ibQ%jV`5*FZ0*g=<PZ;<a<e@@LC:-&#+PRSD+(5kxjNV8,#bKuC$@YF]g$avk=iolU>n[5@F'p0tLmTnsKOm(WX)A?gJZNE%~+JY.3>O3d`*,=h0s5~r`j
 SevW+_#U%r|e=@(.@]dHQF`Ry7Hz;ym|;L*;^oWfXDT.Yxv/#oV0zk=y644qH:*K*o879;bxum'!pU5q>BOmJ|%a3GOszpdLyrI|lS#)X4_JW9luK0mjNv6
 E*>`VpQ^bKeo=J:6R>U8yb?WWpF$:%|NVXUb1&L~:7XOc7`#*5r*ex'F|91JRb880,23Izpje5wag31X3UAI:@R.?Hx'wuU,u:=o!U>DgWdq)f(xw^mg289
 fz7~W+=Qrh5n1[Rh|_<&qPw$OBXYwiHXyk75FI7j>-l23=z=ebZA<.9~|VO,DkzGWx=JuQsof*zm@e#pVO|1x^(Gr$/E$H6HCeG3P]pP*WyQ)nPw2L9KY~s
 hH.1D0E-=?(kVSPxUc&vB!sW+P4[l%Y#Uj=EB=.pFzux?kGF?u'e_+Pt&n.6)i1%bG.Lh&2o>MNJSzw]r<qcw7Uuh>`/Bp[[UJOKmA1R:~s^W>o)(N4_jt@
 d<at7Qa/<Oap>D'uMEF4h.8tN=Uzik7r:gz=ZB*s99!rF+zA>iFk$MT*gDn<><&(ml`>$zyElhcQ5)X'(YH~Fx`V_s'cglX8IVZ~kWRury2(l9H2CS*<*-5
 [el/g?tM-DUk<IJ@eli6+`-ug?5(daw76s(y/qUIo&S#b#/G|:Yhk1W,4h8IT`<$5rz;n^s<,<sMc3ktu3NS$+UqM/94o0&*kx2[FC|9[^a@dpV2Lk&9aeW
 y4Br9B$*dPoVLh%Iy<<0mBu&tjL!tVv8sy?y>`k,Z;0EJD>_B=ynu4nm/OPu|ZLE/5zBi0.TbS]'#R%*(!jSO8/_<y`$ndZ%$M[[Z.&v@~;3o:6(j_U?@D]
 vTa324`!Q-.-W@9?`e*;K02>(2[FmL`4n=b&%5<W=7q?`c=,P'bQl2l|T3YLrQ?|pN_YP!OhyjA`8|k@6<7gt:.31>T=]^Lv;l=yIo,ClW_&h.8+0T32$bh
 gBu[RdNA^aNCdLAa]A7g_0)1[cd&@AF(T70;eliDbB6hXhzY8N>-eSe*~/M>]K_@_+LV:'fO3Oi$9[qKp%QmsvvR6Km2vUR4^Qt|Nti?pzXYppppNS.v?z2
 sOg&lh!]dV^m~5OY*g*yTfA;lGu@FF:(MT9f8I.L13^&OP6[9OF/~y='EliA:PfTq02ED6F)fc%A.S<.%T9^|HE)UL@VjRL'%4@^vCJVxFa!&0zG,VFl%?>
 g3`5EC!OQfFl-*e.~hX<X+,:Xf=Q6i3s>NF8$Xd6`9YN9/h5O=T['?nrB'z9q]t^i#UYk<!p<P%=XY>S:K_dEt-y.8$(T5glcv9?Qa$+(:dufPiszg-K^c$
 H=cSrw|D,'lpuyOYzff@_![IP;&zoUQ9qq^S7nv8G/cBEo'9X]t9c:MZ0E.V|]?]<opaxH9TwE_>c<5wVm%^bUMcJM4nf~g_^p$8lx!O=__~vvf>5u`t/CI
 [#'Wz<N@JW3$GM>PK]n-z2UN[LV:P)(+(J7lnuG(frVB~'i!lj5e4MS]qaktrJq*4R4;<X_/Nb44mSX&[GN#^$~xWsJg2sCJ`<bd,phBTcB5=[EDi,1hM^[
 Duto]H-nO1ITk=Hl@H);iaE@@S-:yL>:KvPJ`ag>rGfQ=1X35C3*:<?QW6^>LiIwrTVrr=B[PL~*g6jf;ed%O^BKBCVaD^gBmG5E?T<S]9wN4a&P<8Yw6z5
 0ly-2gJ^_a`c9LK+J#V*';d^P|c|JnOEpu>DG:NP>|i4uSH@flTwo$>8uwmt/h[3YYx;Wy3FQD9jC4X%7mhp-<5pdTq%Z#mwR;VN+cSDc`X'B<_h`]@xyMG
 v>7>f'fUnp?PjGIuZq(~K)Il(k$Ac@wz(UZE9p!:A-|GK+P^xqFK,oXsTRD%kdFqBAdZhk(b'X$|PMkK7NX?OB^mw1F!?iTpHM,%>F8XkgQ:AQ)],Qx3DWi
 O@Obm>K-*_LMgn7n.cz*Xl4z9E(MH/8jE<qna>h6BWVg*R;PCE3vLR@7?T*hugry:qqUGLdSPWrS~KO^l3i&mW$N&(5e3Hr(6(=(p1Ml_SF(0H`kKKjzt#V
 ]#d%iUDTD,^m#r3DVgSrXj<9@Zbf:/?S[zf<'w5;p*t@2[*ZzXH^BegDs1/iAy_b_k']1Ous#ZAokU8YAA9m=]/ZW[DSY8jmI?R#(cjNwKy|0*RJoAN5'`f
 8M!X]d(?N0HTW%8`PKZR)Ps0YqaK+f#weX!](-#TjIlR+rP/B$^)N&Pdw4+y0`QxorN;F'~q8GVHn5l:bN:6!#dx,n)SUCDFc?7Bb)8n&u>Q2v6+sz#,+tK
 Wmp+Dgt2d_FPbhGD@7ODCc~7<oY(/pEnVr~UxuZt=C;#7[&<m*=pmwZlj'Fu'R@*Cqg|9AJZm>AcOYd#4+az(]srk2^VNH'By0qPVrX#ZbI'&+0m7EOa5[z
 S+0$rh9:@/&4h~gq8aUP@c6~lS^sUY?[a#GpEZj_fErviMoo@&;ZDV1BjhDiQHaM5~GX(>6`vG~pk:DMic|:1ZUD_CKK#lEfDeuRV$W6e&Unkz^`v@L1H%s
 X%g#fr;o-v!,S,QSu_j|GfKIL3W/P'OJsvh1udD_*j<aR)kUTQl)Y!qG*.ip'<bYE-iz)jYIr;*BK0Ex>-ap#as;gi92|m-_j35KP)=YtH|~zoYQbBWx-x0
 8C`L=2*C)rcGX0O/p.jiEah4VRq.!OUayy,edm&Ku|jZY1PaUfNNrEwbyD1`nuY:ELmyh4ob:t^PHPscKmylo|K0rzhW^q;ZOdO$.-=~!b`&4F$iPwEj$Cy
 cwkbJJ0A.Fb.fF%NC]&K0*jD.t>#O?=8-F]2M.%!z.-+v;n/zOuW?jVH19qdtXCk_:ju+ZVQPJVwf2IfVApA1|;^wcPG$1GPsqEZsKf+W#yA4r*(RRRQItA
 &ZNs@,NQ~t?Sm-7'V/lH;zV77ht7F7VEXkf~>pbK8z]zRZh8~v,E%JTkPZy%wZrJ^D6h'Ea]u'mG*y)CLwv8kUu~$Z]8%b01g)Q+HydfUF]VZYU?Gmt5,^T
 Rd#8[XAhKVs:aljsB50>%jaS5c%b|s=rCOWa4MOrl3UOT)3P'aGLcdC#_o:3p6RL/?|WYm8D[bcl3h?fS8<R!^j_wQ)Io`>Xzo2[)UhD'e?(lq7H=4-SqJ*
 c^LIJo<c,S`%:OQgVnL]mEwqh8pvb#D#HK~D_tk2.-uCy<q8++GU?<t1s2poLuFeHe/0I@a`MN1w3|l)dzV'yh+^zXJrS)dP|8Vv!H*ig%>aZbC|u;Mj.Y?
 a6Yrdwao12NPX%@yqYwf.k]1]<Mqz8o9xo6HR7JfbB'jX2>D<sq<6~?Q0<9d%irGz=l.XALW1W6s#xbxi(<`cdEfq03-z4O0<@u`!D6:Av=gt)B86sgbTWG
 1]3De1m0eG:Y@wi3Hm^SJh*M!f$i-d]epQKFpBD/JqM%S!PSG&cif2R:eT5Yq|rq0G1<*DRfh8-mIcFr,w4K[+A=o+oL'C6vrC1uT'~pkUUjZ_~yss;%du0
 Y_SOBq/$=+<(Fa&((`16B@!~)KVkqmQ,XX!W>uce,$wKx>2L|LU>WO*ee*%(ELuo>=dc5g9_OP.M<Ej^V|;nv61wp.`bf0(f]I(uhZ<h4eKq,jR[)lF*M4d
 .)6-Z@ODCsZnOadSe]S<)W1hK5bVM,`3f7$_r]N:GBtN<H(/6CDmjIuPL7tkzN4+|i#F|uF,BTr?5X!)gs+[jx#u/6C~iZ$s'DdjiLui2u~1+iy?J5IIzwS
 q(s]')#BNkdk78'KMfsbe+(#-,_wRw1r?RLqCe>]3JA9tGAw=dCPk?r[2kFmZiW?[hiy'zq~8GLqk17DwZVpZ'eGRLqKR^|DgiN#|qCVS$D_7'B~AF,MPe+
 oLEYfvPK])F6Yqo=WK3z6hI>[Fili*?^X^Ky5''<2zKg;(!6cPp5//`&#A|e21I=bg7,l~!w&do@CS1oqJ)ywJ!(X0@HI84*HH,$X5JB_pN19,zb)_FZm|D
 JHbd<&KA0QWre*;3Eyxh..ZZZ.zf],Qs4Lui5|B2y6]D^-&!6*Jv`.<`W8x_H_GW)*97<UQJayOU.Hw&KOe0Scj2bQjW]g$w>OGef,6=Pc.GC^O`K7%n%o0
 Z&6?&S&KH$[V-wS)KiBm1WY!9&s*tT9VN.&L@3OkOJS_bYuu!-mdJyKC;!sw%s%,<4KnPo:4gwMY5!-#E:L$vz7qk?rHafweyy=`Gc-GcYM6rr.pog)Rpx~
 .D)*Tiazyc@I?ka|IzgiIt7Vx$2[Cw@L>`u8Hk4|)&0kHHVFc'goz;WW6JGY@PMU(a`oYly4kuz*kZz.Zj.+NiiP3(26Vh&2(50'1ePJ:A:aKu^$ecAo+C.
 <iKs8@bozi|_si@.q4,G+VO#>MdeBN*)S8Q*53+fhz3*R]_O&Fm;i~k2_w-g&o7K2,(^=-<EfXbvYDl!LQaI7vPE6~nlB=.wJ6<D:?I&I3fpveRP6<JJ+3!
 gS6WP`?b|pg^R;vaw&N5A,IZvp'pSO/kTDa,t|er`%?u|b0#9)-xBQG(JK+bTRk0VZhX7)zlSWGymSZ7qt96!w#r,bEzQ'hWTP6^Xg=*N<Ew(j=;V?5ALrl
 SV*C;voUeG/MQ-J:p<>5]M%wDZQ-!X-Y0tczoa^hxh6`]7bWaRBwxqy-J`|Y_Ti0E7X*B'0:NB(N3o*R,r!!:qR(VDpJ#~Hn9YDW*[Hn|SN*^3ySH,5ZIYg
 *`lTS8a;:sa^&_`Ic>XJ^]X.9KtGJg-huM<Y=g&$Vyxi5iJUe?sTqK=&y-d6JB4(Q5E68d15*okJNa3F*6Z>0'y?G5oG$syjDX@J%Am2]eXI(ofMk]Xss,2
 ?_X03AmL8O.$'_m1~*&%S<@%R8v@>Yq+bb4_QdQM)qcvN5qI]$Ew,4o=YeR-?><7_le(@YN&erF%8E1K4U`=|)]$3CCET'!_RuJ^O]Y?RKyc/'(|sF2j1s|
 %a9'NdMVlshz2PL-f4182%GCPh~E::mbFv&f!gRjc-N`Am[[]d_A&-7]y@N/kgY4UjsrM'D|Q61x'Y|7Icr~fRos@1*O,!*|ROwad=i.f]7tiI_/WnWuCx|
 @~epQY<XgA5QrhSvl*^snMW,P^>pj&rz!aN~ltf5ZJgJ#;^<$kPFND)uUtst;FW4trG8AJp-cg^rNQc.J)Fk!|1D#Sm-rBw2NE`6ujZ%GaOB9ztm#|DHXiy
 !(`g]n61KER-[uqF's!EERT+u(U8l9)]p(c:6X.`jk%pj@>M`@,e*u)0+9;3gu%0sn<c5VXz~1X_7FUEid~gEZ:o|B<*Q46KEGUb*+OMZq[t_c8y`clJQnw
 DV^_!W>->SvgREXL@.egNwIa</n=]ei%|vrkrj$SNHLuRzpnhHMG&i;0msy|(q(H>H-/'#DL_NW[zm!@zF=wgwD3[rX^2]B-->;sn*0^WI-ONLS[AO*=uCC
 gSTvWzd_[x9E%o,uD1-ZLEFoDv.u39'MT6:tSh7OSmY9Ab9P.|kR4`hJ0^r1B<Wm]Lv8m*]D=r++Fw>[$Ss#8vOsm@'Xp9BfWOWT!Wt,AGimzCGc0A+uUN)
 )c`:/$j;X1ywyC6[+of*<6VQgfk?m|3v;_3'-%|9]TIa?CRWU(GDG|.N(|>h.YzEmMuHyf^r/M+qB6.XBMc(x2DgH/f3=~4,G4sE#e:6y]6TlJg'_f+6ylk
 <ngZZ3@q2/:?opH3[[!C&?SM9ZjNJe`nqq`KRokYfG&WR;y`zK6=si@1GjhhL8i$zAJ=#d+3CjFaH1(U<*!To'bRZM61&M?mWBj$-!>-3]U_]v:QZ`/&%DD
 z2*I@D)bH[(wICR@&iV%_0G&4&Dxd@&-9SK*4tnwV!6rBLzA``LmCY#ry3/v|@A(L+T18QE//mdJ%Yf[ZHcY9^n(16CBI.F?D=KN_.A5s~xKJ7fqA@bklQu
 !Fx)90TX(d]RqD2$(jTk:~tB~m'!0i`lYjzAtAC_$4*M>M9UhYEJe^=58eDTpZK,.EbV1$t/Qj5aHl>!$2GDCkgI)bKH&*?IHIDHl*QKElD$_=s,TYw7R<D
 I<c-'(M*r%BoJbdTC3gB:K1Yl=3nr0-a_S>D,r!Q3MWI6!u.e!FdLgIFFy@%PZ4Y7T0YQa/j[t03eUj4rI$)x[7gI%nU$DVF[VEC^2U!f?`LF,+#whUxJs<
 Kc9N-41g8/<4t2A_U#'V~uv2jp6kxAbhr=b<fL_l;Y0Q+*O-!UvPk2eGxLpg~,^;XGGE.^E(YSw_$za;`mwg+yrx%N+AjDsw7'IfYH*)ibPdk[5c0-hMXdo
 BHCTnDg9^?%.Z9QSJgNZH8@^Ugr`C:%S,/_K<_imDGFkAX`VXwmc@yqeUHR*sp%nUe?.6LQQ_#D%a'V~^+[y5#LoWIB3NABPMNqZBGph?/8:,DNeTJSu4oQ
 ,82s-cbiqxXD]v1S|X#1G/cg'4(8,7)xmqoK<qp*`~JfpaS11Drja7-x~1'Md5?z0p`X9iOe#`b%/E^aB`oCVBah:GqgDyIIC0gr'%RsWXK^&s]a!r[B0'3
 L:U)xNj'3rU0J^R;OB<]A1mGOGRZ8eD^Y'JaS<yMYeZkd!yn|uSkAolWD[s0HUw3<'NqGg3bFw%<RrZm`+J;q,^6W'4gY+pLm]+a@1:J~U',)2M#2_q+J~@
 rZ13J1xn$R!fi]]irf@%?8Q&M=hT3hh*|<%[joJiGCryvHxP07^tT`!d3oS1C8BynL!!J8oWNi7M#li5DM^:~D5;v17ZLH41*p('Gp[,xFVBnCWa0Uy,?5z
 9?0G3C:u)9WXHR0=?0n4_e^N)@?i&:Es0Hm!R$n]jcb8Ku<1r$,j_4ZvAK+VWP*6ejYOiVYk'9dJzrT<HK]IbM7>^QOqLRewVd-]@|24&Q)w$~BeYuK'Om0
 [`aONO`gI,9|1|>=uCUTAE,9A*F%2,YS9xGSqg9DspDHn,m0kwM/IagPRkh,+PX22l/_puB,]eB!ktNh|G=w&Kapeg]cd+ltrZ%#caNFr.N5w$k6O8YXyx=
 09s5MS6'.`5LTeG<>_4Uzhs@2$uJ8xa,<z&Ss0AZKT5zw;<0J:Z_oJv5OM)!VTI8|A>nm&*)c#T.@aY7F^lB/-xIea9!47TB~)%aTk3B%(vbCujaJ`b8Fd4
 2@K@SxH>@>8DxQ]W'mZzB]!XR'?6U[(3&U/hPpW%^nIY1s^j/p_i>U;!Nq4K`1(ODfS,(N@@u!=;pYr^;X'amqKa`|[ex=PW2;'mY/8?g!bo|k8BA&;[ySd
 nUv=I@EtgAA9i*?e..y(QhBFuU&'Ob&8u1l`9jNfpja^YvM'FXJPUf]'Z,4csOmY^I:h4Y_>U+&33Kk?$yx]gzKOk,E8XtJo$2ct(7H;657d>AT+3CIz=I-
 CAlEk?4da!t&BnZt,5L.y~Qt^)OY2m5']T8!xeQPO9J;(:Jyozk(g]idbC<SpkbJw[B/uh39:2p`~*UVzWud`xe7IHI^D0$V)ZV:,@?-gDSWCd<c%jU<7UT
 q'*&q`f$'k(oH2vsN03z24^7Dq-VtN[qrx7-pCS`UcB)]>-T7l=P$aXXS`-KlLu/k^pA!F5rk2hNi2d)<[|[=;'73%ryBq3q9d%`IJwCy$_GG=HZh_y6s@e
 gBOy:T)gY!Q!MDhfrdm>%;lmz<b||pHiy6Ex-y##uh-HX@]!q6U|R/>:Ee(>na^W&f1@QcLqnAsHsZk`,k5,_2;%D@nx/~^?-g6!q>]yn95/QmH5Cb%dKIS
 ,O?@=aQgF30HI/rFG&m;c3.BR[v(jrs>6~)F.!Y,09*ZpInHA?DkA2ApB_`5mLfJr&cDeJ,wsv~`-SZ[Xj`a5SoKEAPgo?4w~.6NRCJy9'|urIVE|Lf4%(-
 vYf&t%`t#LsGtz'tI?Ta&fTOG3v'WY-jF]>*F,6L|aFV[yNR^FsiYMuI:*C/jUm<://3]PP[6ZZq=76cr/p8jcF1%u_.mp<>Cpk<;K*WUubEQVgqKWHfa_0
 $2dsn1=3kr.%k.Rl5+j4[3(1#)2`e>`&A6O-G.k4?Mhtr%`>=.-/Lal7mV&G@ste31[.<w8D|sDKz=S07yOCCP%i+Nwv@Sr'r-(0b.]DU!NG<0etJnrBE=2
 %vz%BeKuKoaJv7h@71FWroiLFz+UW'^L|s8J%ZVWn8w)r,%uqllDPh(#d)mMKy0?W8st=@z8jDy/TmpO9gay=W0Lscrvv8Xl@#/CmyW<9.N:IUAka^3NnD4
 0uOu:7t75)#(RY@E~Q$oa'xq&*8stC7(hi@DN#`H,KOlGTK+q.Bd0ga!%JUxRwp8I;Ai.qV+&OWl/zO(X!W!^C+!iqU:1q*GA!+.q-)>IS('qPPBW1zyVZ3
 Gbf=lXZ6BG@ocdk7y/]DI.c,P?VISTg*aL7/l|6vZJl/FEjfZ::?EURgv1ouub`fb3S+H|@(hV5?XQluXV_:@Tam]n4kH|^<Ye(WR4Q'!.'6Su8Q+[exc85
 Bob~zg:#rh5qRl#B=;.-oV$CGCbEB:1*sl>PMW%<.;U^$#;vp[qQbPYZU!|JQ*fcD0HtAlMe6`F|?-QCkIqiVpF*9o[#l6gr+,je*%yT~k8MFl-sq+yLcj$
 tyvQ|SHIZdRs9=?.)-L5@Z?OP0&ESz|<|(wbz^QyM$lI(^fR>W!_.;|Ah)mZ7a>$Gm@f_to%2PwNNYqZlO`/2_/Izo;r'sMt|e,z^Pm'eYJoqezW%f(Ir*R
 $)><(HZV~`b[ep,'b&5y3'tX-QAN8uq:hU_QtFrrNu_bkk%?y]uQY>x>B(=f_sbg@g!B:ufFfz$HHiRVl/O__sw-qO<byX1Rxc:cz)SlM%Xd;6O2~=CWtA&
 mkc30D$qB7a*)t0?G2_w_mzVK0&>A~)?id!mk!8qX6El^<Sa6J(y8D5gxS@t]@bJ&IG6a0@W0M[-V@x?U5oAIiWfTS#K^|I0!Hti:RDl!3hDsI*ToObNG'c
 UAdA10CT-^gp%&O_;dFS(1~R0ScxQqPXp(Jv'V0BV?I9`7$//odZdIEiN3#1?@%:[$E!:-*A1=pFe_z$01XVZkc:K5ru[5[$TD3[fFr|gBW589GV3JvZ([g
 WT3S7=e&nT3rlBU7<-M<VrY7lC=9]1U~Qz~oM_^rr2KWmu6yn#F/YazLY7<'/x7$`5sOz.r*@fA7BYEjST$x6&LNVV,v:_bdJ4StSQ2/bhUy`,lMiD())/L
 mP%Cp^h$zUrs0[mXLL?1bF/[lHRDmJAb|q/Pi~g5j02M94/z=VP8pnY5|%Wa:_?#0HARgs>yXQl46R<:&^L8/[*Us(4[d4[b5qgWn_o-/Y@SSw(wrCwxiRE
 X<J.h%wS1356['yW>3$A9,X7ZrhNQ69''=hsmWDDpw9@1A6/:D@j#T~.:[IlsKwjgZJf=?`AM%l!Gi8z'u;OOARsn7J-W28j`Sf<:#jqlS7Yigw*V4,:QiW
 sUpNYyhRzN-*TV2@5(K3/r9I*zrJiDxu)xHaFZ(2&1eyQ46e(e*!zwTO)zU0$#<=8KInygk_%Y?DDg/L4KE.Z;!1W@lzKsO*#;C3>?W796bKb$H)`<1j),x
 wUP[)hgY$:hMK!@9I*(yc8@C0AkXdN-*Thc4uS`yP:8^9;?Hpo?%PIowj/*@w.ST:G_uosH8D#Xvjru-d~0nt;5K:y'!.6r`GiS,R]nm+Y1JWjRL&Mlt0T5
 5n3V<y#V+-&B*592x8pQkfFg=/Ld.V|s>PJCaxreH4O#PPO28bUWAGK[%dMFu|)b6R?fzLBo5%uTGPj-rzObpT2a8p*;24A*F]y`[]ITSOSxhK!u5lw(IC`
 Xa5xKnT-^$?TaH.4BV*1=Tf2W$Xu/dSVFGd99N_SgjwLBJQ9RL$^@+SNc(0[Lx,zMyweVXI@w/vR!uM&0x-mex0q&VF=T*:y0V^U!X_o3Y0o='8W6A13>2q
 c>c=JBbe1+-&^+&Ywm-MNcbw&P?A?h6za0bK4F'sQIQ%k[.)jk|lp8-?QkoICrWG[|G_zjN69^If;*70,(s/t0S.w[w'N?iq.8)/bfJDIb'b:%9.dyqEo>i
 0&`<3G>EG.'n#g%w2-xk^T1OU=FE6A4?_HXMT/=nV+zM^Vw>fmgUnbtkq3?JTL?pk6T_iC^k`f[$qy@eh--rC1+m^'@UMO'4HE~M37]zfMDNV3ON^J]28P+
 j),+[&NBzQ9'&->&B+0!h?s6736T+6y&^L0-(Am/Xse#b,wm,Wd?G~e?B#06qpeqJ+(gvGmoPb*I,:pX&iT:HHA0ZttllBY$'Srj2<S=`.NRwJPepP7TNsG
 ZTTx&m^Pd'FEO|=sR6n40/%jL!3`u=7=*$#lnXf)/ZB><)Ay#6?BxIYzZ78eQNv2LoZWh`*P%_rKa/mhuA(A!XCYe#@%S%.tGzJ,7mVk?VLe?QY4hrQE'-C
 soc$pv+kIPAF3q<cFh'5]ff:6fgZ)ikM)K2/1QMc(wL>fBU,)wj|,d9mBX2HRI?ScX0txY~sHAdf+;B*BTYk;eH':8<gr]e50yH/!#hZpn>(/_kxv<km]=2
 t+Sy%c<e@Jd4)K)Ed]=2$wM%GsmpTNu5/e,WTD^iYZ^jpBX@*w!QSoX)Y+mD!f*wNhQtV#%$A](x$<3xf=G-ct+_D@XATWLm+H<(qJy9Du;j,'!DfY(j/`h
 r^D/I&#IGq]#d;VQ!4z.>tz;iS:vz8=~B)<mGc8H7Mhxz,3LRu*WoI)12T$zv[u9HQl*ao)/@%w9luXWeM7?hCosf1jTma;'KUDw5+_~x7=,RkTq;8A3F;h
 6uL$y6:^M8->DmZL4D3i]mJwQ)%hF7+_X-B!4P/1oxrDt0I.HQc<WtXn%+G%`eyNYztn=~$*uOOtFXGyoz!,zxwv[)W[ji`u5(V;~KokRMOJ~Ihbai4xBLX
 +>/Y.p0'wtS5l|n^4`zDAz.<$fxLl~AY>?d%g0HZEMl)O?G,8|cp2V|,o1$tqt.`I<C35?v%(jVz)Do)maDP*%d%0TY/C^0n9rs^fxOEWZ:AtW;Lj#?tT;a
 aTn.vR%Ht=;o3#gDXd#O`JTH@8p_/_!$UmFi0`6zy42o-QnO:?df7lQ@bfA|UXT>VUMKg&c%z@+Zb,yQFU'pYn?a4L!#AYPeVQ`D]V1gRfv1opxTi(-&22H
 qr:qy*i.U.iD/]w%>KA25Zd>Kbx3<wC?f_?^]|QJ&zV`;<k9*!*32DX;|0qkI2N]mDgB+U[*.xqHI;c$y<Cd)kle&q.vr[rkJHX`E7Fioo`x&cCsJT,)MI;
 K~MU+-2iwICjfuOiiAuo|_~+_zUS1>iy_Teq2#p$swhmI`<<3h2va~2nw<v'_%Ii[@-dZw7LjU/WZ7qMlif@GcfeSZzxzW,>@'qy%0jChPBJc7XPhWjh:T&
 Sy5-jw5DT'JHq6-@trx2kcF#vuMQFAmqVB@UKFjg7B6[R+5B2R+%v'5MH,]ADk^:SSMV~^9a);?S_88^gAhd%V22zb)Bp1s#1,IHNu`nV9R5V-';%<b4uLL
 hbuRUklCvBsh[&l8'TD(2RuLon_MntSL>1DF1;H[kBndbMkUYk-bt4Q8Be!UH!!!"

end Stencil.Text.CharName
