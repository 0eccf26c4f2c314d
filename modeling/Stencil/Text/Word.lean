import Stencil.Text.Ranges

/-!
# Words and identifiers

An identifier starts with a letter or an underscore and goes on with letters, digits, marks and connectors.
A word character is one that may stand in an identifier, some late marks excepted, or a number sign such as `²` that
counts as alphanumeric and yet may not.
-/

set_option autoImplicit false

namespace Stencil.Text

def idStartRanges : Ranges := .ofRows
  [0x831e3d3a8928bab19819828aa41a9c4a5e5bda381185f8bd4ad4291a12aa21ab2a8aaa8f8aac9aca028a881cf1b1d917ae3ae2e8d8b18a52,
    0x92ac28ab849a9a9aead2b9dd918b19f1aa9e18928cbc8aead2b9bfdf18291818b28cd6b795a2daf2ea18183838c8a18dd2e8d9a184938c1,
    0x848cca91ae2aaafd8f39b8bab38cf1ae2aaafd68f2b1cac9c9a8a9cbaacda8a2882aa9f38cca9aead2b9bfc18839828b28cca9aead2aaa81,
    0xda819c8cbdd928d2a5c61cc3b4af801894be28acb8b18a91a8af2aca8a9b7ee18af5b7eb8a81af2c92ed93a91ae8928b85aaa81a29829a9,
    0x8d8c4b682aac1f192f1a2e19281a1ca11e93a82bb511cdbd2192f1e4a01bba87ae1bba8aebba84bba85bba8aebbac15aa5b8e8ad4a28d1c1,
    0xfbdbd4bdbd24901f72e8c9adaba5aba58181bb4b1aa5b4b3b5b19e1d3f6fa2e5e318b21c6a1e2f693db5c1cbd3a6e3b1d01e8a8581831c01,
    0xeaeaeaea1e292881f6b8e8ad4d19cbfc43871585a28dcebbf1a8a8a8fdb8a91b8d8e41c1928e18d61eaaec1ddbbceaac8aeac6be3a8a8a8a,
    0x93ca8a9ef7be41b8185f11be392e5d29b1f1cc14bd5c01c1235901f76419001f196f3a2d31aa5eba931aafd21dcbc8181a3af401eaeaeaea,
    0xe3a61fd1aa5aeaea1dbdbdd1a81a1ba938a8bcb9c8a96c8ce2d2faa8385acb191ac928d3e581c3a3e2b1b3c19a8cdf796f1b6e3e2abaaaf1,
    0xc4abdbdbdce3bf6c193f93d4d71a8a8a8a8c8a88719195d6bf7b2933fa12a4b51a9a9a8acac1a91a8ecd1ef4951bd55d040286de2d1b4652,
    0xd93fb1d2a1e64c019aeae1aa1a9aeae1aa1d1b691f4db4db4b2d32b5cafdb4bd3b1d4ed3e1f38686cc3c14c6e01a71b4d1be1a9aa2a93ab1,
    0xb4e1a6e1a687811f5192e1a2b1d2b1d6c3b3afc4c3cc3b5c3aaab8289019ff6f0193b1d2b19aa2a01e3a1e2b1e2b8c9ab5a8bde0181a95a,
    0x9aead2b9bff4e58191ae1aba8aed2183a92c48a8e2bf1f5d18ca4918b8e3b4b38394c5e18b9a7c6d1e2c3c2f592b5d2918b1c3f119f95d35,
    0x8e2881f4b18d38a892e4bff318a882f2a9afb8bf84f7d61b5a72ee4a38118e1a5c78d2f5d4ba5e59728a9d2f5f3ad2bb2c6f32cd18b28cca,
    0xe3818701a7602e011a277e50282841d115b03a2e51f4193618218e72a28158f1f3a9ada38e2d4a9ae961d3a68a2c4a81814811b28c2d5c1,
    0xf4531918181cc1ea51d044b1691ba2ae5a44a9aeab8531281b5d23291f6731d38a9901c1b018ea11902f79621a2ec284b92f5b2d3a2e11a2,
    0xbaed632b5b2d3a05892eb1c5a47e3d643fa83ae3a83ae3a83ae3a83ae3a83a83bb25aec8acabab3aeafbba801aea8ab1abb9b8b9ae01ac21,
    0x818700194f33321d050182acaae82a91a8ababaeabb8a9a8a8a8a8a8b8a9aaa8a8a8d8f8a8aba91a8b8a9aa3abd622881b01c7c03ae1a9a,
    0xa1511b472d301840686461f190231bd33]

def idContinueRanges : Ranges := .ofRows
  [0x9b1ea92aaf684af2b5fd7ac5caaa81ab938a181a49182a1c31a3f388391bba9bdbee418fe396a19118a9a9a8ac5a14cc73883f5191118f62,
    0xea887c9291f18a1baaccc78b291b9b1a81ab9bea897aadb191b9d2aaaafa897ac18cb1d28cab9dca897ab8f191b9b18a1ab9bea897aa291b,
    0x9d8a8a8c191f9f791bdc191a883191afd1fa8e79b91ffa8add8f01aa291b9b18a1baaaea987b9291b9c1981baaaea897aa291b9c1981baaa,
    0xc3a91a7cd7a190291b1b1db1f618822a1aaa491b8a1f39019f39e3ad3b946181a1a8031e1ab1e1bcebaaadbd191ab2d418a1b4aa1e9ab2a6,
    0x9a51db501f39418e12af775b1c8dc1c718c298011f7f03ab8f8dc2aaf6191f9191b296d1d591bc1f3ad181a291c18286ca6f1ad1f291fa1b,
    0x9eca58a9e9baa8b6aa491b9918d1d18691b18c19182d186bd5c1a3fd3a1e192f91b192b69c218dc838d8c8924992199491d8e0191e0627,
    0xba184e1e6ab71ba6a1a329a659191be7019e428da95be9aa835291e44ce228b438e3119f318e491903a939cf192f1a4318d447491b9afd53,
    0xb219c381bee2391d1b2a218d91a192903cceb9b18a1ab9bea987bf91eb19428fb1b21b1ab91d196ad18d59e91ad1d4af91e5881a1e5bb19,
    0x9691918aea9a8cdb71d1ad2979192fafe26f1f5a1a1891bae9591d38cebe87191d19a8abb9adf0191e42e1b6391de1c219191c1a21918282,
    0xcf28f189196de6900196a162ad22bf3ebf91dccf301e2bd5a41119c52649c18a21b81e6a8e67191a3ec7cf491f2191a5554ba159191ca9ac,
    0xf53f04200391f221191eee51ef272d1e78d4591a1ee04ca9aeb82ae9252e1a]

def numberSignRanges : Ranges := .ofRows
  [0xff391b12bb4518a648a552d3f611d2f11b7f2318a5f1f0391fdc8f61491c612a1f70291a6681a2ea33ee02a971d975da7138c721ab8e9a62,
    0xcc11af39d681901d5bf1b9942df2cc118185ea3fd642bd4a3e259a2ba01c591218a8a8a8a8a8a8a8d619f26d95025d96527e1859194e1a,
    0xe1ac5d11baaaa7a46181f152183d51b2a1126e2f341ef0654c2c251a2855181f569e052b2c75b2f02e961bb591f32e3945db15ea5f93f951,
    0xc1b071]

def lateMarkRanges : Ranges := .ofRows
  [0x8e119b8b53ba6a1a329c06bd40268b238a60501cf7389501f186218a738b31489748d019b78c038878f528e21dc738b5491b5fb328d773,
    0xbd5f14759c18d318186893105bc35ca9acb018aea9a8cd8321f1f5a1a1891bae9591d38cebee129a8abb9ade63e1e1718b448c5598129b02,
    0xbe78875ea5701e2]

def isIdStart (c : Char) : Bool :=
  if c.toNat < 128 then c.isAlpha || c == '_' else idStartRanges.has c.toNat

def isIdContinue (c : Char) : Bool :=
  isIdStart c || (if c.toNat < 128 then c.isDigit else idContinueRanges.has c.toNat)

def isWordChar (c : Char) : Bool :=
  if c.toNat < 128 then isIdContinue c
  else (isIdContinue c && !lateMarkRanges.has c.toNat) || numberSignRanges.has c.toNat

def isIdentifier : List Char → Bool
  | [] => false
  | c :: cs => isIdStart c && cs.all isIdContinue

end Stencil.Text
