import CollectionRunner.Unicode.Mapping
import CollectionRunner.Unicode.Property

namespace CollectionRunner.Unicode.Case

/-- The capital form of each code point that has another one. -/
def capitals : Mapping :=
  .packed
    ["X3o1_1x10kk1h1i1_12C_110o72l1120lE2513F13j1135110tI10cC33130140160130Y640110cA10Yap230a835",
     "130150130143130140120m36011032011032011032F110z42H13011032014d114H190132-ZL20159110-XL10uX",
     "L10yXL10ZD10xC22vC20pC20rC10-qo240vC10sqo220zC10kso210moo210eqo220XD10bD10eqo210k_K10Yqo23",
     "0bD20w_K10fD30hD80k-K30pD20cqo210pD40qoo210pD10f412nD10j460rDB0gno210ano2d50e5i13140144a8l",
     "10h214f22W1_110z11G_110_312z320x310n340z210h310F2N110h510_410E10d720_5301301r1-1_11U_42X11",
     "Ar113D110T2_21o1g2_2gw2q2Wy534Wy5vNAFZa20xcC10vcC10dcC12ZcC10bcC10tbC10fYC10aya2201l70eWb2",
     "40ik7H0mZb2p3r4160r36_211EG9AGBEG9EG9AGC7G9EG92q416i512e612W812W712y7p12GD0fYEI2GF2G40EfB0",
     "t1Y1UV501iQo1p1dw1-2_220140rYL10lYL251701301BZ31931501Dg2_bE20_bE60_bEqeUj11KR1e4D14z11B31",
     "39150153110W33J1CF15313F1R01zQ0_v1T-4_yh2YyKo1_1kc1k2l2f4c2l2y4Kj22Sj22Cj222j2au1a3_3-3g1_",
     "1xv2-1_1XiL-1_1y1m1r1loUY2Z2"]
    ["_62t80g32cNxc1d52hQai1WD3IX9DW13Lv9DtE2Z5w1le62xaFok112baFeh112XaFch112_ZFYh112nbFwd1s52rw",
     "DZ923vwDZ9b123zwDZ9Z123XxDZ9-2g12l7zsD12l7_sD12l7XtD12l7ZtD12l7btD12l7dtD12l7ftD12l7htD12_",
     "7zsD12_7_sD12_7XtD12_7ZtD12_7btD12_7dtD12_7ftD12_7htD12l6zuD12l6_uD12l6XvD12l6ZvD12l6bvD12",
     "l6dvD12l6fvD12l6hvD12_6zuD12_6_uD12_6XvD12_6ZvD12_6bvD12_6dvD12_6fvD12_6hvD12l3zyD12l3_yD1",
     "2l3XzD12l3ZzD12l3bzD12l3dzD12l3fzD12l3hzD12_3zyD12_3_yD12_3XzD12_3ZzD12_3bzD12_3dzD12_3fzD",
     "12_3hzD32GXYE12ZYEG12xYEc122fYEz413hYEz4k552rYEG62GXZE12tYE412rZEW122zYEf513_YEf5k552fZE46",
     "3nZEX9F13pZEX9D32vZEj513xZEX9q3B3vZEv9F13xZEv9D12baEx822XaEb613ZaEv9q3B2GXcE12paEV12fcEK22",
     "vaEj613xaEj6k552bbEVaus12phz3012rhz3612thz3C13vhz30613xhz30C12Zhz3212bhz32D2zyw3412_yw3T12",
     "Xzw3H12lyw3F12bzw3D"]

/-- The small form of each code point that has another one. -/
def smalls : Mapping :=
  .packed
    ["X2o1W2c3i1W22CW2Y1l124523F23j1220n715240aD13220yC10222wC10230-410qC10sC10220wC10-C20cD10YD",
     "10240cD10gD20iD15220qD10220qD30220qD10222oD13220sD1024028041022041022041H23H230413220X610l",
     "31d1220Z82H280sYL10220bA10mYL30220bC10g410k4192Y93240290e770i224g220W422-32W1W22GW2a10G9N2",
     "60t330220D10234Z81UW51-1W2n1X12Ar1220U1D23_223g2W3gw2g2WcE20WcE60WcEpM-4Wzh21AGqa2027q2_x5",
     "34_x5XAr42A0zxE2_22AEF9AFBEF9EF9AFC7F9EFPEF9EF9EF92F12p410HC6h510HC2F12d6D2F12_610DC2_712x",
     "710Hg90vrE40zhG10haG70u1k1UW1K02pPo1q1nv1-2W3n10220j_K10hk710j-K35220tXL10v_K10zXL10xXL202",
     "30292zZL1Z32932502kgUj12KR2e4D24z12B3220dWb219250220loo23324J220dqo210zqo210rqo210Xqo210dq",
     "o220Zno210poo210fno210Ww11F220_210bqo210lZb213220jso21F220Xap2P02ivLo1W2cc1k2m2f4c2m2z4Kk2",
     "2Sk22Ck222k2ht1a3W4-4g1W2xv2-1W2XiL-1W2X2m1s1eoUY2a2"]
    ["m92jCyf1"]

/-- What stands for each code point where capital and small letters count as the same. -/
def folds : Mapping :=
  .packed
    ["X2o1W2x20km1Bi1W22CW2Y1l124523F23j1220n715220tG20aD13220yC10222wC10230-410qC10sC10220wC10-",
     "C20cD10YD10240cD10gD20iD15220qD10220qD30220qD10222oD13220sD1024028041022041022041H23H23041",
     "3220X610l31d1220Z82H280sYL10220bA10mYL30220bC10g410k4192t70e7h13240290e770i224g220W422-32W",
     "1W22GW2N02D0G10x110n140T10h12N220h310_230t310_320220D10234Z81UW51-1W2n1X12Ar1220U1D23_223g",
     "2W3gw2g2WcE20WcE60WcEhPAFZa20xaC10vaC10daC12ZaC10baC10tZC10dYC10cya21027q2_x534_x5XAr4270p",
     "35_22AEF9AFBEF9EF9AFC7F9EFf22F12p430fWEA6h5D2F12d6D2F12_610DC2_712x7h90vrE40zhG10haG70u1k1",
     "UW1K02pPo1q1nv1-2W3n10220j_K10hk710j-K35220tXL10v_K10zXL10xXL20230292zZL1Z32932502kgUj12KR",
     "2e4D24z12B3220dWb219250220loo23324J220dqo210zqo210rqo210Xqo210dqo220Zno210poo210fno210Ww11",
     "F220_210bqo210lZb213220jso21F220Xap2P02xR-4_yh2YxKo1W2cc1k2m2f4c2m2z4Kk22Sk22Ck222k2ht1a3W",
     "4-4g1W2xv2-1W2XiL-1W2X2m1s1eoUY2a2"]
    ["_62t60n22jCyf1P2cNxa1d52hOag1WD3o2XBDW13g1vBDtE2Z2w1le62xYFoi112bYFef112XYFcf112_XFYf112nZ",
     "Fwb142rYF0o52ruDZB23vuDZBb123zuDZBZ123XvDZB-2g12_7jqD12_7lqD12_7nqD12_7pqD12_7rqD12_7tqD12",
     "_7vqD12_7xqD12l8jqD12l8lqD12l8nqD12l8pqD12l8rqD12l8tqD12l8vqD12l8xqD12_6jsD12_6lsD12_6nsD1",
     "2_6psD12_6rsD12_6tsD12_6vsD12_6xsD12l7jsD12l7lsD12l7nsD12l7psD12l7rsD12l7tsD12l7vsD12l7xsD",
     "12_3jwD12_3lwD12_3nwD12_3pwD12_3rwD12_3twD12_3vwD12_3xwD12l4jwD12l4lwD12l4nwD12l4pwD12l4rw",
     "D12l4twD12l4vwD12l4xwD32Z4jxD12ZWEG12lWEQ22fWEz613hWEz6k752rWEG62x4rxD12tWE412hXEM22zWEf71",
     "3_WEf7k752fXE463nXEXBF13pXEXBD32vXEj713xXEXBq3B3vXEvBF13xXEvBD12bYExA22XYEb813ZYEvBq3B2h7b",
     "yD12pYEV12hYEf122vYEj813xYEj8k752bZEVaus12pfz3012rfz3612tfz3C13vfz30613xfz30C12Zfz3212bfz3",
     "2D2zvw3412_vw3T12Xww3H12lvw3F12bww3D"]

/-- What stands for each code point where letters are compared one by one. -/
def simpleFolds : Mapping :=
  .packed
    ["X2o1W2x20km1Bi1W22CW2Y1l124523F23j1220n715220tG20aD13220yC10222wC10230-410qC10sC10220wC10-",
     "C20cD10YD10240cD10gD20iD15220qD10220qD30220qD10222oD13220sD1024028041022041022041H23H23041",
     "3220X610l31d1220Z82H280sYL10220bA10mYL30220bC10g410k4192t70e7h13240290e770i224g220W422-32W",
     "1W22GW2N02D0G10x110n140T10h12N220h310_230t310_320220D10234Z81UW51-1W2n1X12Ar1220U1D23_223g",
     "2W3gw2g2WcE20WcE60WcEhPAFZa20xaC10vaC10daC12ZaC10baC10tZC10dYC10cya21027q2_x534_x5XAr4270p",
     "330zxE2_22AEF9AFBEF9EF9AFC7F9EFPEF9EF9EF92F12p410H20fWEA6h510H70baE52F12d680bZE52F12_610DC",
     "2_712x710Hg90vrE40zhG10haG70u1k1UW1K02pPo1q1nv1-2W3n10220j_K10hk710j-K35220tXL10v_K10zXL10",
     "xXL20230292zZL1Z32932502kgUj12KR2e4D24z12B3220dWb219250220loo23324J220dqo210zqo210rqo210Xq",
     "o210dqo220Zno210poo210fno210Ww11F220_210bqo210lZb213220jso21F220Xap2P02xR-4_yh2cwJ02yW1o1W",
     "2cc1k2m2f4c2m2z4Kk22Sk22Ck222k2ht1a3W4-4g1W2xv2-1W2XiL-1W2X2m1s1eoUY2a2"]
    []

def upper (n : Nat) : List Nat := capitals.apply n

def lower (n : Nat) : List Nat := smalls.apply n

def fold (n : Nat) : List Nat := folds.apply n

/-- The one code point that stands for another, and for all its forms of the same length. -/
def simpleFold (n : Nat) : Nat := (simpleFolds.apply n).headD n

def caseIgnorable : CodeSet := Property.caseIgnorable.codes

def cased : CodeSet := Property.cased.codes

/-- Whether the first code point that counts, of those that lead away from a letter, has case. -/
def reachesCased (codes : List Nat) : Bool :=
  match codes.find? (! caseIgnorable.contains ·) with
  | some n => cased.contains n
  | none => false

/-- The small form of a text, for which each code point has its own; a sigma at the end of a word
has a form of its own. -/
def lowerText (small : Nat → List Nat) (codes : List Nat) : List Nat := go [] codes []
where
  /-- The text before the place, read backwards, the text after it, and the form of the first one,
  read backwards. -/
  go : (before after done : List Nat) → List Nat
    | _, [], done => done.reverse
    | before, n :: after, done =>
      let form :=
        if n = 0x3A3 && reachesCased before && ! reachesCased after then [0x3C2] else small n
      go (n :: before) after (form.reverse ++ done)

/-- The capital form of a text. -/
def upperString (s : String) : String :=
  String.ofList (s.toList.flatMap fun c => (upper c.toNat).map Char.ofNat)

end CollectionRunner.Unicode.Case
