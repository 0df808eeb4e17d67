import CollectionRunner.Unicode.CodeSet

namespace CollectionRunner.Unicode.Joining

/-- Letters that join with the one after them only. -/
def withNext : CodeSet :=
  .packed
    ["oZg11woO191eH1gM1"]

/-- Letters that join with the one before them only. -/
def withPrevious : CodeSet :=
  .packed
    ["Yn14111154L1e1313GIc112911112211O2W11454191111121T1B3F2411232c615211A113E1125JB1R3112261hm",
     "W21111235A13121A1n411331211211N4rB1_C1m31W11V2-1322214251"]

/-- Letters that join with both. -/
def withBoth : CodeSet :=
  .packed
    ["Wn115111154D1712Z128GIc112911112e1321I35419111112VB3F24112326g2X1s25211A11A11421T12511GA52",
     "261F-v31Ov2EY111ryZ1o1koO5E41513A4n411133121121S2oAX111_C212e331HC3S42Ck1112412212112151rf",
     "s1a2"]

/-- Marks across which letters join. -/
def transparent : CodeSet :=
  .packed
    ["j51oIm3p87d8j111121211e2B11k1LG1b37262214X1111URx2Bw1991O4191315h13x19g1O1W1t1111484137A2T",
     "1w114481K2Q122v1142422331U231B2v11451241K2M611w1121148172B2U1z11C1o1131t1113531472B2T1w112",
     "16152K2S2v124481K2T1e217311w2127C8Y3129B7f22R11111t1E15125B1a191c34161222P243G4D12261F1_L3",
     "oT3T2U2U2W2217812B91j1311r32Y11s33429163x6221w11171111286A21m1k12CK4m11151151e19C2W142213u",
     "11123113w1822u431D17416132c6W2hG122Q5n1556W3X1-_23j41W3W1gH4h32qkT41AW12m22m813141P251t42Q",
     "ID1c18PBk13m112422d11Z262222C181l11p1113225211g1281k712141mvJ1XNGGGl61v73XG1Y71r45cq131254",
     "e1341b52zH4X25z92j26c2Bn14x31s1Ff1122A3n142271z13a1518-11C2q19A421_2321126121z4138L2v1231b",
     "1735c26D11111E2r282311N1q26114212k746212R2r282112g31112611b31112415Z8912W821141m442241W1Ae",
     "1624819623k1D12c611311f671611o2M271212w3631121711e223111xA2B2q155111N1rc5H6FecBC33Wk25x17u",
     "W11_14n21ubJ214yo4k12NWH39G27U4q43xz1t14o181E1M51Fmg171H271215a31W57tB1z14yF4-72p71217251w",
     "E7j38rrbO1UW3W4m7"]

end CollectionRunner.Unicode.Joining
