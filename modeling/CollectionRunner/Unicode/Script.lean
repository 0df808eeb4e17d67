import CollectionRunner.Unicode.CodeSet

namespace CollectionRunner.Unicode

/-- A writing system: its names, the code points that belong to it alone, and those that are used
in it, where they are not the same. -/
structure Script where
  names : List String
  packedCodes : List String
  packedUses : Option (List String)
  deriving DecidableEq, Repr, Inhabited

namespace Script

def rowsA : List Script :=
  [⟨["Adlam", "Adlm"],
    ["Wew3i24A42"],
    some
      ["_m11W11km61nl31-rk3i24A42"]⟩,
   ⟨["Caucasian_Albanian", "Aghb"],
    ["mfX2q1B1"],
    some
      ["aO1i11i11nkW2q1B1"]⟩,
   ⟨["Ahom"],
    ["Wub2R2F4N"],
    none⟩,
   ⟨["Arabic", "Arab"],
    ["Wm15161E131W11ABQ1i31Y1m2m1m7Y15h21Tmoy1kF2m4W1Gm351d4Zx3VZ2689X16Wut141R1211211A141111614",
     "111111312112111111111121124171414111A1H53151Hq12"],
    some
      ["Wm151t61Y1m2m1m7Y15h21Tlw51nl31kep1WKW1Gm351d4ZVSax2VZ2689X16Wut141R1211211A14111161411111",
       "1312112111111111121124171414111A1H53151Hq12"]⟩,
   ⟨["Imperial_Aramaic", "Armi"],
    ["WYY2M19"],
    none⟩,
   ⟨["Armenian", "Armn"],
    ["nf1c12o123Ziz15"],
    some
      ["eO1eHc12o123Ziz15"]⟩,
   ⟨["Avestan", "Avst"],
    ["WuY2s137"],
    some
      ["t51uhB2kct1s137"]⟩,
   ⟨["Balinese", "Bali"],
    ["Wu6j21o1"],
    none⟩,
   ⟨["Bamum", "Bamu"],
    ["Wrf1u2eem1vH"],
    none⟩,
   ⟨["Bassa_Vah", "Bass"],
    ["msw2U26"],
    none⟩,
   ⟨["Batak", "Batk"],
    ["W-6q184"],
    none⟩,
   ⟨["Bengali", "Beng"],
    ["Wi2418222M1711342922248142152P"],
    some
      ["yL1qq12H2Q418222M1711342922248142152Pns411122118181214123v_Y11"]⟩,
   ⟨["Bhaiksuki", "Bhks"],
    ["WWd291j11EAT"],
    none⟩,
   ⟨["Bopomofo", "Bopo"],
    ["gN2vmBh1m3W1"],
    some
      ["dM113D1G2reB34A1DA42161Z619h1m3W1bap12w85"]⟩,
   ⟨["Brahmi", "Brah"],
    ["WWa2k24a191"],
    none⟩,
   ⟨["Braille", "Brai"],
    ["WWAW8"],
    none⟩,
   ⟨["Buginese", "Bugi"],
    ["Wm6S22"],
    some
      ["Wm6S22lzZ11"]⟩,
   ⟨["Buhid", "Buhd"],
    ["Ww5K"],
    some
      ["rv529K"]⟩,
   ⟨["Chakma", "Cakm"],
    ["Wea2r11I"],
    some
      ["cl2Amo1AsbW2r11I"]⟩,
   ⟨["Canadian_Aboriginal", "Cans"],
    ["WW5WKmHc2wjW2G"],
    none⟩,
   ⟨["Carian", "Cari"],
    ["WrW2n1"],
    some
      ["t51Yz7121pk31kZr1n1"]⟩,
   ⟨["Cham"],
    ["Wmg1t19E2A24"],
    none⟩,
   ⟨["Cherokee", "Cher"],
    ["Wz4s226oxb1m2"],
    some
      ["WO31162M2B2kZ4s226oxb1m2"]⟩,
   ⟨["Chorasmian", "Chrs"],
    ["mzZ2S"],
    none⟩,
   ⟨["Coptic", "Copt", "Qaac"],
    ["YVEmaAq357"],
    some
      ["t51eI13211i32i3EmaAq357t81ecr1S"]⟩,
   ⟨["Cypro_Minoan", "Cpmn"],
    ["myh2Z3"],
    some
      ["WeW22kqBZ3"]⟩,
   ⟨["Cypriot", "Cprt"],
    ["WWY26211i1123121"],
    some
      ["WeW234j139Ws16211i1123121"]⟩,
   ⟨["Cyrillic", "Cyrl"],
    ["WW1b42f5mw5BW51i21dZ4W1WYUW3kyL2Wmu1-1X11"],
    some
      ["yL1Z231111112151k7m9mw5BW51i21_31d_3W1Z21y_TW3kyL2Wmu1-1X11"]⟩,
   ⟨["Devanagari", "Deva"],
    ["We2n24F2QWxd1W1WmSA"],
    some
      ["yL1Zo1p22h1mw4d112sV1_vX1Ac5W1WmSA"]⟩,
   ⟨["Dives_Akuru", "Diak"],
    ["Wec272128121U122C9A"],
    none⟩]

def rowsB : List Script :=
  [⟨["Dogra", "Dogr"],
    ["WWc2y1"],
    some
      ["ah2CWsd1Ac-Ry1"]⟩,
   ⟨["Deseret", "Dsrt"],
    ["WWX2m2"],
    none⟩,
   ⟨["Duployan", "Dupl"],
    ["WWl3h35D397A24"],
    some
      ["t51lI211O2tuA1ZkZ3h35D397A28"]⟩,
   ⟨["Egyptian_Hieroglyphs", "Egyp"],
    ["WWi2sY1Axy3"],
    none⟩,
   ⟨["Elbasan", "Elba"],
    ["WeX2e1"],
    some
      ["t51jI1wlW2e1"]⟩,
   ⟨["Elymaic", "Elym"],
    ["W_Z2N"],
    none⟩,
   ⟨["Ethiopic", "Ethi"],
    ["Wm4f2142711142f1142X1142711142F1v1142Z22W13Qcl6N9717171717171717YfV626269717nbl2714121F"],
    some
      ["kO1nt3f2142711142f1142X1142711142F1v1142Z22W13Qcl6N9717171717171717YfV626269717nbl2714121F"]⟩,
   ⟨["Georgian", "Geor"],
    ["Wb4c111512h114my2h123WY4c11151"],
    some
      ["t51nc11su2c111512m1my2h123wS1bb3c11151Z81"]⟩,
   ⟨["Glagolitic", "Glag"],
    ["WWBW3Wzi371H271215"],
    some
      ["t51hI111-B121X81nx21-w31bz2W3ZF1hXU1mik271H271215"]⟩,
   ⟨["Gunjala_Gondi", "Gong"],
    ["Whd26121b112167A"],
    some
      ["t51ib22w_a26121b112167A"]⟩,
   ⟨["Masaram_Gondi", "Gonm"],
    ["Wed27121i13112198A"],
    some
      ["ah22wya27121i13112198A"]⟩,
   ⟨["Gothic", "Goth"],
    ["mvW2R"],
    some
      ["t51iI221e11-__1R"]⟩,
   ⟨["Grantha", "Gran"],
    ["Wua2418222M1712152922232161572735"],
    some
      ["ng22H2WKEyc4112U332sV1lmy1418222M1712151A22232161572735xY3211"]⟩,
   ⟨["Greek", "Grek"],
    ["mR4132411411113111K1_1EGcf65o1545q21WAM262c126281111111V2r11F1E261J2319d91-nY11wkLl2H1_Yq1",
     "c2"],
    some
      ["t51eI2211111A1k1121g182411411113111K1_1EGcf65o1545q23-9M262c126281111111V2r11F1E261J2319-2",
       "1e61-nY11wkLl2H1_Yq1c2"]⟩,
   ⟨["Gujarati", "Gujr"],
    ["Xq2319131M1712152A131321F42C77"],
    some
      ["ng22H2x8319131M1712152A131321F42C77mfd1A"]⟩,
   ⟨["Gurmukhi", "Guru"],
    ["Xm2316422M17121212211542233174117H"],
    some
      ["ng22H2x4316422M17121212211542233174117Hvjd1A"]⟩,
   ⟨["Hangul", "Hang"],
    ["We4W8kn72X8-2n3VX2VXtTTZKazACN4n1az9V36262623"],
    some
      ["We4W8Xm734A1DE361Z61r1-2n3VX2VXtTTZKazACN4n1fo92w85w1V36262623"]⟩,
   ⟨["Han", "Hani"],
    ["WqBQ1v2Cs6l1111P9E4aUWk6W2WmKWeMkB2g3eeT2C7fWa1Wtf1W1-e42kq52nf7FkJYj2-GYl1hw45gf8"],
    some
      ["t51ekBQ1v2Cs6QG131D1D1D2169x51q4GW1c191m1e1u1n1FCp11u2PA5W3V1Wk6W2WmKWu18ulKkB2g3hR2w85yZS",
       "2C7fxOI-s72kj3Wtf1W1-e42kq52nf7FkJYj2-GYl1hw45gf8"]⟩,
   ⟨["Hanunoo", "Hano"],
    ["Wv5L"],
    some
      ["Wv5N"]⟩,
   ⟨["Hatran", "Hatr"],
    ["WdY2J1255"],
    none⟩,
   ⟨["Hebrew", "Hebr"],
    ["ni1t18R46efz1Q151112121A"],
    some
      ["dO2eKt18R46efz1Q151112121A"]⟩,
   ⟨["Hiragana", "Hira"],
    ["XYCs263Xx_2_8I1T3jbG1"],
    some
      ["XWC34A1DG611423s228w22egp12w85A1j12XZi1_8I1T3jbG1"]⟩,
   ⟨["Anatolian_Hieroglyphs", "Hluw"],
    ["WWn2dI"],
    none⟩,
   ⟨["Pahawh_Hmong", "Hmng"],
    ["Wuw2c2AA171L5J"],
    none⟩,
   ⟨["Nyiakeng_Puachue_Hmong", "Hmnp"],
    ["Weu3j13E2A42"],
    none⟩,
   ⟨["Old_Hungarian", "Hung"],
    ["WaZ2p1Dp176"],
    some
      ["wY8121pk31F1-nt1p1Dp176"]⟩,
   ⟨["Old_Italic", "Ital"],
    ["WuW2a193"],
    none⟩,
   ⟨["Javanese", "Java"],
    ["Wig1k22A42"],
    some
      ["Wig1k21B42"]⟩,
   ⟨["Kayah_Li", "Kali"],
    ["Weg1k111"],
    some
      ["Weg1m1"]⟩,
   ⟨["Katakana", "Kana"],
    ["XbCw223m7Gm6l11u2kWp1A1j1oYi14171211_83o11E4"],
    some
      ["bO1T1zcB34A1DG61142x243W3m7Gm6l11u2jto12w8_1mYi14171211_83o11E4"]⟩]

def rowsC : List Script :=
  [⟨["Kawi"],
    ["Wud2H1f13T"],
    none⟩,
   ⟨["Kharoshthi", "Khar"],
    ["WmY241258131T234A79"],
    none⟩,
   ⟨["Khmer", "Khmr"],
    ["Wy5-22A6AcFW1"],
    none⟩,
   ⟨["Khojki", "Khoj"],
    ["Wma2I1l1"],
    some
      ["ct2AWgd1AckQI1l1"]⟩,
   ⟨["Khitan_Small_Script", "Kits"],
    ["a_x21xu6sEf11"],
    none⟩,
   ⟨["Kannada", "Knda"],
    ["Wa3D131N1A152913147253142A13"],
    some
      ["ng22H2wOD131N1A152913147253142A13y-311261N111xvY16"]⟩,
   ⟨["Kaithi", "Kthi"],
    ["Waa2Z2A1"],
    some
      ["ch2AXc91-lUAcYQZ2A1"]⟩,
   ⟨["Tai_Tham", "Lana"],
    ["Wn6_11T2B6A6E"],
    none⟩,
   ⟨["Lao", "Laoo"],
    ["Xq3211151O111N2511171A24"],
    none⟩,
   ⟨["Latin", "Latn"],
    ["X2Q6Ql11F15N1V1XEd15xm6c16n1545D1c2X2W8nB1D1GDj4261R1Hf1ts2W1YrUc33o2KFmPh11914syJ7wW1Q6Qb",
     "X261g119bwr1V66"],
    some
      ["X2Q6Ql11C1215N1V1XE31A11311911165RF1211F37212c11514Dr82gc12ez11aW3c16n1545D1c2v117W8l91X21",
       "D1GDp21v1261R1Hf1ts2W1tC1edU8Qc33o2KFk91XGh11914syJ7wW1Q6QbX261g119bwr1V66"]⟩,
   ⟨["Lepcha", "Lepc"],
    ["WW7u13F33"],
    none⟩,
   ⟨["Limbu", "Limb"],
    ["We6V1C4C413C"],
    some
      ["bh21wy3V1C4C413C"]⟩,
   ⟨["Linear_A", "Lina"],
    ["WmX2t99MA8"],
    some
      ["deW2j1ic1t99MA8"]⟩,
   ⟨["Linear_B", "Linb"],
    ["WWW2C1Q1J121F2EY1x3"],
    some
      ["WWW2C1Q1J121F2EY1x3534j139"]⟩,
   ⟨["Lisu"],
    ["mcf1m1mrU1"],
    some
      ["yL1G1yfB2acTm1mrU1"]⟩,
   ⟨["Lycian", "Lyci"],
    ["WqW2T"],
    some
      ["wY81bnu1T"]⟩,
   ⟨["Lydian", "Lydi"],
    ["WfY2Q51"],
    some
      ["t51vhB1kts1Q51"]⟩,
   ⟨["Mahajani", "Mahj"],
    ["mga2d1"],
    some
      ["t51ib2CWsd1AseQd1"]⟩,
   ⟨["Makasar", "Maka"],
    ["Wtd2P"],
    none⟩,
   ⟨["Mandaic", "Mand"],
    ["WY2S21"],
    some
      ["Wo11_FS21"]⟩,
   ⟨["Manichaean", "Mani"],
    ["WsY2d14C"],
    some
      ["Wo11_ZX2d14C"]⟩,
   ⟨["Marchen", "Marc"],
    ["mZd2W12M1E"],
    none⟩,
   ⟨["Medefaidrin", "Medf"],
    ["Wox2x2"],
    none⟩,
   ⟨["Mende_Kikakui", "Mend"],
    ["WWw3b62G"],
    none⟩,
   ⟨["Meroitic_Cursive", "Merc"],
    ["WjY2O4K2k1"],
    none⟩,
   ⟨["Meroitic_Hieroglyphs", "Mero"],
    ["WiY2W1"],
    some
      ["zY81Yfw1W1"]⟩,
   ⟨["Malayalam", "Mlym"],
    ["We3D131p113164G2Q"],
    some
      ["ng22H2wSD131p113164G2Qww31N1zvY13"]⟩,
   ⟨["Modi"],
    ["Wmb2b2BA"],
    some
      ["mXg1AckRb2BA"]⟩,
   ⟨["Mongolian", "Mong"],
    ["WW62211K6v27h1rj_1D"],
    some
      ["WW6Q6v27h1ay11n-3254qov1D"]⟩,
   ⟨["Mro", "Mroo"],
    ["Wow2V1A42"],
    none⟩]

def rowsD : List Script :=
  [⟨["Meetei_Mayek", "Mtei"],
    ["Wtg1Nf6k12A"],
    none⟩,
   ⟨["Multani", "Mult"],
    ["Wqa2711141F1B"],
    some
      ["cp2AmWY2711141F1B"]⟩,
   ⟨["Myanmar", "Mymr"],
    ["WW4W5Wgc1VX3W1mYRK"],
    some
      ["WW4W5kac11n5VX3W1mYRK"]⟩,
   ⟨["Nag_Mundari", "Nagm"],
    ["mcv3g1"],
    none⟩,
   ⟨["Nandinagari", "Nand"],
    ["Wjc282k12B"],
    some
      ["ng21I2WSAv_318171rvY16ghS82k12B"]⟩,
   ⟨["Old_North_Arabian", "Narb"],
    ["WqY2W1"],
    none⟩,
   ⟨["Nabataean", "Nbat"],
    ["WaY2V89"],
    none⟩,
   ⟨["Newa"],
    ["WWb2y215"],
    some
      ["ng22Yy411291611111ouz1y215"]⟩,
   ⟨["Nko", "Nkoo"],
    ["W-1x123"],
    some
      ["im11E131WDx123-fz12"]⟩,
   ⟨["Nushu", "Nshu"],
    ["X_x21kiGiC"],
    none⟩,
   ⟨["Ogham", "Ogam"],
    ["Wq5T"],
    none⟩,
   ⟨["Ol_Chiki", "Olck"],
    ["mY7m1"],
    none⟩,
   ⟨["Old_Turkic", "Orkh"],
    ["WWZ2f2"],
    some
      ["wY81rk31lkt1f2"]⟩,
   ⟨["Oriya", "Orya"],
    ["Xu2318222M1712152922237342152I"],
    some
      ["ng22H2xC318222M1712152922237342152IYh41N1"]⟩,
   ⟨["Osage", "Osge"],
    ["mbX2a14a1"],
    some
      ["XO12161i21tgW2a14a1"]⟩,
   ⟨["Osmanya", "Osma"],
    ["WaX2U2A"],
    none⟩,
   ⟨["Old_Uyghur", "Ougr"],
    ["mxZ2Q"],
    some
      ["Wo11nbX21zZ1Q"]⟩,
   ⟨["Palmyrene", "Palm"],
    ["WZY2W1"],
    none⟩,
   ⟨["Pau_Cin_Hau", "Pauc"],
    ["Wsc2v1"],
    none⟩,
   ⟨["Old_Permic", "Perm"],
    ["mwW2h1"],
    some
      ["t51eI153A1lB1is_1h1"]⟩,
   ⟨["Phags_Pa", "Phag"],
    ["WYg1u1"],
    some
      ["YW6211fX21o-31zXUu1"]⟩,
   ⟨["Inscriptional_Pahlavi", "Phli"],
    ["WxY2J58"],
    none⟩,
   ⟨["Psalter_Pahlavi", "Phlp"],
    ["WyY2I74C7"],
    some
      ["Wo11_fX2I74C7"]⟩,
   ⟨["Phoenician", "Phnx"],
    ["WeY2S31"],
    none⟩,
   ⟨["Miao", "Plrd"],
    ["Wux2h24v17H"],
    none⟩,
   ⟨["Inscriptional_Parthian", "Prti"],
    ["WwY2M28"],
    none⟩,
   ⟨["Rejang", "Rjng"],
    ["mfg1a1B1"],
    none⟩,
   ⟨["Hanifi_Rohingya", "Rohg"],
    ["WeZ2e18A"],
    some
      ["im11E131W11p41hnX2e18A"]⟩,
   ⟨["Runic", "Runr"],
    ["Wr5h23B"],
    some
      ["Wr5v2"]⟩,
   ⟨["Samaritan", "Samr"],
    ["WW2k12F"],
    some
      ["WW2k12Fol91"]⟩]

def rowsE : List Script :=
  [⟨["Old_South_Arabian", "Sarb"],
    ["WpY2W1"],
    none⟩,
   ⟨["Saurashtra", "Saur"],
    ["Wag1c28C"],
    none⟩,
   ⟨["SignWriting", "Sgnw"],
    ["WWs3iKF51F"],
    none⟩,
   ⟨["Shavian", "Shaw"],
    ["mYX2m1"],
    some
      ["t51uyW2m1"]⟩,
   ⟨["Sharada", "Shrd"],
    ["Wia2W3Wi28"],
    some
      ["ng21by411122219121YwY1621dgQW3Wi28"]⟩,
   ⟨["Siddham", "Sidd"],
    ["Wib2s12c1"],
    none⟩,
   ⟨["Khudawadi", "Sind"],
    ["mra2x15A"],
    some
      ["ah22gsd1AspQx15A"]⟩,
   ⟨["Sinhala", "Sinh"],
    ["Xi331I3O191127314611186A23i_W2K"],
    some
      ["ah22xW131I3O191127314611186A23zt31kdz1K"]⟩,
   ⟨["Sogdian", "Sogd"],
    ["mvZ2g1"],
    some
      ["Wo11ldY2g1"]⟩,
   ⟨["Old_Sogdian", "Sogo"],
    ["WuZ2e1"],
    none⟩,
   ⟨["Sora_Sompeng", "Sora"],
    ["mca2P7A"],
    none⟩,
   ⟨["Soyombo", "Soyo"],
    ["moc2p2"],
    none⟩,
   ⟨["Sundanese", "Sund"],
    ["Wy6W2W88"],
    none⟩,
   ⟨["Syloti_Nagri", "Sylo"],
    ["WWg1j1"],
    some
      ["ah22W4Ammd1j1"]⟩,
   ⟨["Syriac", "Syrc"],
    ["Wu1E1y123m8B"],
    some
      ["ZO22211O37212wM1E221W11ABQ1l4E1y123m8Bji5111"]⟩,
   ⟨["Tagbanwa", "Tagb"],
    ["Wx5D1312"],
    some
      ["rv52f1D1312"]⟩,
   ⟨["Takri", "Takr"],
    ["Wqb2w16A"],
    some
      ["ah22gsd1AcoRw16A"]⟩,
   ⟨["Tai_Le", "Tale"],
    ["mg6U25"],
    some
      ["WO25231pf3Ace2U25"]⟩,
   ⟨["New_Tai_Lue", "Talu"],
    ["Wi6i14Q6B32"],
    none⟩,
   ⟨["Tamil", "Taml"],
    ["Yy2216331432111232333C4533142161ELb-a2o1D1"],
    some
      ["ng22H2yG216331432111232333C4533142161EL_c41uWZ11jmQ111t12Za3o1D1"]⟩,
   ⟨["Tangut", "Tang"],
    ["W_x21VWu6WGVX3p3"],
    some
      ["m_BGlF1mll21VWu6WGVX3p3"]⟩,
   ⟨["Tai_Viet", "Tavt"],
    ["Wqg1Z2O5"],
    none⟩,
   ⟨["Telugu", "Telu"],
    ["WW3D131N1G291314721312242A79"],
    some
      ["ng22H2wKD131N1G291314721312242A79rY421111N1"]⟩,
   ⟨["Tifinagh", "Tfng"],
    ["mfBu172E1"],
    some
      ["YO11114P1imAu172E1"]⟩,
   ⟨["Tagalog", "Tglg"],
    ["Wu5M91"],
    some
      ["Wu5M91L2"]⟩,
   ⟨["Thaana", "Thaa"],
    ["Wy1o1"],
    some
      ["im11E221W2As8o1Woz11A1"]⟩,
   ⟨["Thai"],
    ["Xm3w15S"],
    some
      ["yL1Q1h11j11ls2w15S"]⟩,
   ⟨["Tibetan", "Tibt"],
    ["Wu3e21a14d11a11F1742"],
    some
      ["Wu3e21a14d11a11F1742jX84"]⟩,
   ⟨["Tirhuta", "Tirh"],
    ["Wab2e28A"],
    some
      ["ng22H2lx41C1F1zvY1AcYRe28A"]⟩,
   ⟨["Tangsa", "Tnsa"],
    ["mpw2l21A"],
    none⟩]

def rowsF : List Script :=
  [⟨["Toto"],
    ["mqu3V"],
    some
      ["yL1p-t3V"]⟩,
   ⟨["Ugaritic", "Ugar"],
    ["WyW2U11"],
    none⟩,
   ⟨["Vai", "Vaii"],
    ["Wef1i9"],
    none⟩,
   ⟨["Vithkuqi", "Vith"],
    ["mhX2B1F17121B1F1712"],
    none⟩,
   ⟨["Warang_Citi", "Wara"],
    ["Wbc2p2C1"],
    none⟩,
   ⟨["Wancho", "Wcho"],
    ["Wsu3w151"],
    none⟩,
   ⟨["Old_Persian", "Xpeo"],
    ["WzW2a14E"],
    none⟩,
   ⟨["Cuneiform", "Xsux"],
    ["WWe2wSc3l315Ba6"],
    none⟩,
   ⟨["Yezidi", "Yezi"],
    ["WqZ2g11322"],
    some
      ["im11E131W2AsWY2g11322"]⟩,
   ⟨["Yi", "Yiii"],
    ["WWe1ja13t1"],
    some
      ["XWC25A28_61auRja13t1wqM5"]⟩,
   ⟨["Zanabazar_Square", "Zanb"],
    ["Wmc2e2"],
    none⟩,
   ⟨["Inherited", "Zinh", "Qaai"],
    ["WOm3r82aEBQ1WN4xg4k12CaF31D17416132c6W2iG2Y6X1vv34h32bhp1GGElU1Y71wY41a-k1k12NWH3H827U4owh",
     "Om7"],
    some
      ["lO1211F37212G121I1514ml12xg4k12CsMs11115iG2Y6W1met1GGElU1Yep1k12NWH3H827U4owhOm7"]⟩,
   ⟨["Common", "Zyyy"],
    ["0X2Q6Ql11F15N1V1XEd1552Kq31916111zJ161E131W11y41aG1X42vc11rC4Y91ll13d22h6211jc11D174161321",
     "bOC2t21B3B1FHY1-1c113261R1Hf134wKMBLWTW8qJ2g4WG-2oCL111PF844x2231w22p4GW1c191m1W2Vn2l11u2e",
     "5Wk6W2WeMY1c33b5Aq71W51hC1E2okK2m6AMZ11J14p411W1Q6QBA1j12W2717A5Y834j139m2Dp1j1a7Rajk14yw3",
     "z73qD6NFH_2q3y1s7Ad12-13H827U4z1r6KCKCt29Pd4r21d2122122241C11171X21428171S141511371qA2a92o",
     "1nZ5a2i2z1YMi14a3CF2F1F1b1Ak5u1Q12Di14972E6w4vU3H3D3w66C41FC4u18A6e18U2C42E9d1uA8E2D3B3v11",
     "14G2C4A7p41d3cWXO1UW3"],
    some
      ["0X2Q6Ql11C1215N1V1XE31A1131191116552K-316111zJ1t61aG1yg11rC4dX4C2X11V1A12171B3B1FHY1-1c113",
       "261R1Hf134wKMBLWTW8qJ2g4WGN1O2A14111QYD131D1D1L1nGOV1n1FC4X5A5W3V1Wk6W2eeMQc33mU1E2arKAML2",
       "C1J14p411W1Q6Q6_3717A5oCDp1j1Zmo1z73qD6NFH_2q3y1s7Ad12-13H827U4z1r6KCKCt2R7d4r21d212212224",
       "1C11171X21428171S141511371qA2a92o1nZ5a2i2z1YMi14a3CF2F1F1b1Ak5u1Q12Di149N6w4vU3H3D3w66C41F",
       "C4u18A6e18U2C42E9d1uA8E2D3B3v1114G2C4A7p41d3cWXO1UW3"]⟩,
   ⟨["Garay", "Gara"],
    ["WgZ2c13T82"],
    some
      ["im11E131WvX2c13T82"]⟩,
   ⟨["Gurung_Khema", "Gukh"],
    ["Weu2w1"],
    some
      ["bh21wyr2w1"]⟩,
   ⟨["Kirat_Rai", "Krai"],
    ["Wgx2w1"],
    none⟩,
   ⟨["Ol_Onal", "Onao"],
    ["mkv3h141"],
    some
      ["ah22gZt3h141"]⟩,
   ⟨["Sunuwar", "Sunu"],
    ["W-c2Y1EA"],
    some
      ["WO2119121S131kac2Y1EA"]⟩,
   ⟨["Todhri", "Todr"],
    ["WkX2q1"],
    some
      ["XO121219111g21XpW2q1"]⟩,
   ⟨["Tulu_Tigalari", "Tutg"],
    ["Wya2A11211c11A1121141A1282"],
    some
      ["cd3AYW4111xvY16x51kqQA11211c11A1121141A1282"]⟩]

def all : List Script := rowsA ++ rowsB ++ rowsC ++ rowsD ++ rowsE ++ rowsF

def named? (name : String) : Option Script := all.find? (·.names.contains name)

def codes (s : Script) : CodeSet := .packed s.packedCodes

/-- The code points that are used in a script, whether they belong to it alone or not. -/
def uses (s : Script) : CodeSet := .packed (s.packedUses.getD s.packedCodes)

end Script

end CollectionRunner.Unicode
