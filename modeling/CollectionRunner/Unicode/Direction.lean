import CollectionRunner.Unicode.CodeSet

namespace CollectionRunner.Unicode.Direction

/-- Letters that are written from right to left. -/
def rightToLeft : CodeSet :=
  .packed
    ["mi11j111121211u1812111Dm1Y131b3F272AN1URx2Bw192431O4191315h13q1259g1bw51jus111A1qGI_3X1Dp3",
     "l4Xe2_81X731254e1341b52o27aF48Al15o7Vi12j26c2Bn14w3WWs1m67j37bj12k8"]

/-- Digits that stand among letters from right to left. -/
def arabicNumber : CodeSet :=
  .packed
    ["Wm16w2A12m31oD2m21jYX2Ac9V"]

/-- Digits that are written from left to right everywhere. -/
def europeanNumber : CodeSet :=
  .packed
    ["m1Au3251sn1Ash61366A-VKqps1AdURocr1o1We6Bbt2A"]

/-- Marks, which have the direction of what they stand on. -/
def mark : CodeSet :=
  .packed
    ["WOm3p87d8j111121211e2Bm1LG1b37262214Z11URx2Bw1991O4191315h13x19g1O1W1t1111484137A2T1w11448",
     "1K2Q122v1142422331U231B2v11451241K2M611w1121148172B2U1z11C1o1131t1113531472B2T1w11F2K2S2v1",
     "24481K2T1e217311w2127C8Y3129B7f22R11111t1E15125B1a191c34161222P243G4D12261F1_L3oT3T2U2U2W2",
     "217812B91j1311r32Y11s33429163x6221w11171111286A21m1k12CK4m11151151e19C2W142213u11123113w18",
     "22u431D17416132c6W2mMX1-_23j41W3W1gH4h32qkT41AW12m22m813141P251t42QID1c18PBk13m112422d11Z2",
     "62222C181l11p1113225211g1281k712141mvJ1XNGGGjU1Y71r45cq131254e1341b52zH4X25z92j26c2Bn14x31",
     "s1Ff1122A3n142271z13a1518-11C2q19A421_2321126121z4138L2v1231b1735c26D11111E2r282311N1q2611",
     "4212k746212R2r282112g31112611b332415Z8912W821141m442241W1622e1624819623k1D12c611311f6716q2",
     "M271212w3631121711e223111xA2B2q155111N1bd516FecBC33Wk25x17uW11_14n21ubJ2Xp4k12NWH3H827U4q4",
     "3xz1t14o181E1M51Fmg171H271215a31W57tB1z14yF4-72p71217251wE7j37rzbOm7"]

/-- Signs that have no direction of their own. -/
def neutral : CodeSet :=
  .packed
    ["095E5FA7Q6QA1a117211325N1V1XE27E2E591Hq32815211k31pC123s32121112w21p31A1i84uF271r71X88z37W",
     "E1w74oY1Ac31wK2-91KA6B31n9132u4Y1zj1113B3D3D3D2C32O7m11646A5B5Hm1m121412A1135611111141B245",
     "542Gf134cDb2Q1n4PBLe1Y3YE1pAW8qJ2W11f3b76E7W8-2Y1Q1v2Cs6QC543PF15253x2231w21a6a1v12n1GS3o1",
     "FC4d54Z32V1Wk6W2mqLt1cA3Z31A2W4Y1c31_44C2w14oN2zzJ1qGI_3X1D3GAMZ11J14p411FA7Q6QBw37171GX81",
     "-1j23D31-x11vG7oe1Kwl1Deh2Tm_J1zbJ4lc58k32LY231w5t2aS1v11v11v11v11xv21m_22k8i14a3CF2F1F1b1",
     "L5V1w16z11o56w4uU4H3D3t34_26C41FC4u18A6e18U22k2qACE2D397k1178E49797p41t1pX12-__12-__12-__1",
     "2-__12-__12-__12-__12-__12-__12-__12-__12-__1Y8m7mm3-_x12-__12-__12"]

end CollectionRunner.Unicode.Direction
