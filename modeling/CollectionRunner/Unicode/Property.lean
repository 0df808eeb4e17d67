import CollectionRunner.Unicode.CodeSet

namespace CollectionRunner.Unicode

inductive Property where
  | asciiHexDigit
  | alphabetic
  | bidiControl
  | bidiMirrored
  | caseIgnorable
  | cased
  | changesWhenCasefolded
  | changesWhenCasemapped
  | changesWhenLowercased
  | changesWhenNfkcCasefolded
  | changesWhenTitlecased
  | changesWhenUppercased
  | dash
  | defaultIgnorableCodePoint
  | deprecated
  | diacritic
  | emoji
  | emojiComponent
  | emojiModifier
  | emojiModifierBase
  | emojiPresentation
  | extendedPictographic
  | extender
  | graphemeBase
  | graphemeExtend
  | hexDigit
  | idsBinaryOperator
  | idsTrinaryOperator
  | idContinue
  | idStart
  | ideographic
  | joinControl
  | logicalOrderException
  | lowercase
  | mathematical
  | noncharacterCodePoint
  | patternSyntax
  | patternWhiteSpace
  | quotationMark
  | radical
  | regionalIndicator
  | sentenceTerminal
  | softDotted
  | terminalPunctuation
  | unifiedIdeograph
  | uppercase
  | variationSelector
  | whiteSpace
  | xidContinue
  | xidStart
  deriving DecidableEq, Repr, Inhabited

namespace Property

def all : List Property :=
  [.asciiHexDigit, .alphabetic, .bidiControl, .bidiMirrored, .caseIgnorable, .cased,
   .changesWhenCasefolded, .changesWhenCasemapped, .changesWhenLowercased,
   .changesWhenNfkcCasefolded, .changesWhenTitlecased, .changesWhenUppercased, .dash,
   .defaultIgnorableCodePoint, .deprecated, .diacritic, .emoji, .emojiComponent, .emojiModifier,
   .emojiModifierBase, .emojiPresentation, .extendedPictographic, .extender, .graphemeBase,
   .graphemeExtend, .hexDigit, .idsBinaryOperator, .idsTrinaryOperator, .idContinue, .idStart,
   .ideographic, .joinControl, .logicalOrderException, .lowercase, .mathematical,
   .noncharacterCodePoint, .patternSyntax, .patternWhiteSpace, .quotationMark, .radical,
   .regionalIndicator, .sentenceTerminal, .softDotted, .terminalPunctuation, .unifiedIdeograph,
   .uppercase, .variationSelector, .whiteSpace, .xidContinue, .xidStart]

/-- The names of a property, the long one first. -/
def names : Property → List String
  | .asciiHexDigit => ["ASCII_Hex_Digit", "AHex"]
  | .alphabetic => ["Alphabetic", "Alpha"]
  | .bidiControl => ["Bidi_Control", "Bidi_C"]
  | .bidiMirrored => ["Bidi_Mirrored", "Bidi_M"]
  | .caseIgnorable => ["Case_Ignorable", "CI"]
  | .cased => ["Cased"]
  | .changesWhenCasefolded => ["Changes_When_Casefolded", "CWCF"]
  | .changesWhenCasemapped => ["Changes_When_Casemapped", "CWCM"]
  | .changesWhenLowercased => ["Changes_When_Lowercased", "CWL"]
  | .changesWhenNfkcCasefolded => ["Changes_When_NFKC_Casefolded", "CWKCF"]
  | .changesWhenTitlecased => ["Changes_When_Titlecased", "CWT"]
  | .changesWhenUppercased => ["Changes_When_Uppercased", "CWU"]
  | .dash => ["Dash"]
  | .defaultIgnorableCodePoint => ["Default_Ignorable_Code_Point", "DI"]
  | .deprecated => ["Deprecated", "Dep"]
  | .diacritic => ["Diacritic", "Dia"]
  | .emoji => ["Emoji"]
  | .emojiComponent => ["Emoji_Component", "EComp"]
  | .emojiModifier => ["Emoji_Modifier", "EMod"]
  | .emojiModifierBase => ["Emoji_Modifier_Base", "EBase"]
  | .emojiPresentation => ["Emoji_Presentation", "EPres"]
  | .extendedPictographic => ["Extended_Pictographic", "ExtPict"]
  | .extender => ["Extender", "Ext"]
  | .graphemeBase => ["Grapheme_Base", "Gr_Base"]
  | .graphemeExtend => ["Grapheme_Extend", "Gr_Ext"]
  | .hexDigit => ["Hex_Digit", "Hex"]
  | .idsBinaryOperator => ["IDS_Binary_Operator", "IDSB"]
  | .idsTrinaryOperator => ["IDS_Trinary_Operator", "IDST"]
  | .idContinue => ["ID_Continue", "IDC"]
  | .idStart => ["ID_Start", "IDS"]
  | .ideographic => ["Ideographic", "Ideo"]
  | .joinControl => ["Join_Control", "Join_C"]
  | .logicalOrderException => ["Logical_Order_Exception", "LOE"]
  | .lowercase => ["Lowercase", "Lower"]
  | .mathematical => ["Math"]
  | .noncharacterCodePoint => ["Noncharacter_Code_Point", "NChar"]
  | .patternSyntax => ["Pattern_Syntax", "Pat_Syn"]
  | .patternWhiteSpace => ["Pattern_White_Space", "Pat_WS"]
  | .quotationMark => ["Quotation_Mark", "QMark"]
  | .radical => ["Radical"]
  | .regionalIndicator => ["Regional_Indicator", "RI"]
  | .sentenceTerminal => ["Sentence_Terminal", "STerm"]
  | .softDotted => ["Soft_Dotted", "SD"]
  | .terminalPunctuation => ["Terminal_Punctuation", "Term"]
  | .unifiedIdeograph => ["Unified_Ideograph", "UIdeo"]
  | .uppercase => ["Uppercase", "Upper"]
  | .variationSelector => ["Variation_Selector", "VS"]
  | .whiteSpace => ["White_Space", "space"]
  | .xidContinue => ["XID_Continue", "XIDC"]
  | .xidStart => ["XID_Start", "XIDS"]

/-- The code points that have a property, packed. -/
def packedCodes : Property → List String
  | .asciiHexDigit =>
    ["m1A76Q6"]
  | .alphabetic =>
    ["X2Q6Ql11A1415N1V1gE4CE57111s21TI1224116113111K1p21h48c51c1216f1d1E111212118R44TB5u117Ec318",
     "4843A321Gm1Db3OX192415O2JJP7B5O17718g1AC376i21G134FDJ18222M17113438222211814215C2A14316422",
     "M17121212454222417411H6B319131M17121539131231F4L44318222M171215382222924215D1G216331432111",
     "232333C4533133161e1D131N1G38131382131224S418131N1A15381313825314D3CD131f1281313115475M6131",
     "I3O191127861118I2Dw15761p1211151O111J13251161E4W11_181a14J4G1a1Z2t11125GW2A42c111512h11jA1",
     "42711142f1142X1142711142F1v1142Z2b1GGs2263iJ2H1Q5h23B7KBLCKCD1312Cq12JE141Z2v27h15c2AV1C49",
     "NU25Bi14Qs1S4_12Ko11N2B3n1q11F18p1g124Ai11BEt1M3Aa12B5h123f141612315W6JY1Bs8262c1262811111",
     "11V2r11711331734264D5317q31D1GDb31412A1135611111141B245541Hf1jPq1su1b76432Cc111512u171GN97",
     "171717171717171W1l11rE3P975254s2631w2145h11-2HW1m1GWGWk6W2jqLZ2k12j83GA2Kl1583n3d192d32o2K",
     "L1X1Oq1Ca211i163113AX15Z1DT3p11CF1GGA51t19EIN3b21111O32G24B6262697171h11E6x3LazACN4n1ae8kB",
     "2g3c17C55C1D151112121i3X1hBIW22s1e1Cq351d4a1Q6QBv236262623Z1C1Q1J121F2EY1x3b2r1h8T3n1l1W1D",
     "U5h15U2a14815g1-4Ia14a14e18q1CB1F17121B1F17123q1Ct99MA8O61g119b26211i112312NAN9VX2J12AMAQ6",
     "Qc1u162W241258131Tg1T3TZ181SRs1AMAJDIk3f2t1p1Dp1De1Y1S315Nw7g11232G6o133TA18Mg1Ik1LRN9c2h1",
     "5Av191DPNp1H48Z1319W21492A111Z1I1Y12164-1711141F1A7v1N418222M171215382222316157SA11211c11A",
     "112114123111i1Y21314K3UY22211u5s127P6Y1_11131x1s121d2R2EL7v5v1d3W2V82128121U122224z282k126",
     "1112Rp12AHe251If2d38u2X1V91j11711n1U2M1Ef27121i13112131122O6121b1121411Ni1a8N9H1f133l31l2w",
     "Sc3l3Ha6io2X3FmX1H6Pxy35dIvr6l1ns1vH7VHl2HUIm1G4VL5JmDj1p6W2W1P2Pi1h24v17HW2211C79sc7f1W1X",
     "3p3zl8417121Z9F1T321E48iCae2h35D397A41Xx5r21d2122122241C11171X21428171S141511371qA2P1P1V1P",
     "1V1P1V1P1V1P18qv1V66r671H2712155-1X11m3j1A7G1XAUIi1aFSa7U21l6V1M82W7714121F1b6x1a23131qb14",
     "1R1211211A141111614111111312112111111111121124171414111A1H53151HqJQ6Q6Qsp3Wtf1W1-e42kq52nf",
     "7FkJYj2-GYl1hw45gf8"]
  | .bidiControl =>
    ["ym11nl62Q5t14"]
  | .bidiMirrored =>
    ["e12I111S111T111j11F1-p34zw12yi22A2s12E2n51W643631323414111149511I549211181W12451922J529522",
     "4O2G84K272zX1Eg2124121354533EpCM261E817631451225411322A622CJ14211121145263O2B24412224h1281",
     "e151113553413511W81ZG43212E22Ah18hDA28znp1652Y52I111S111T1111212txr11v11v11v11v11"]
  | .caseIgnorable =>
    ["d1161B1Z1111d2141114122tFW642419211x77l6151n1j111121211i11B6AB11Z11ALG1b381A14X1111URx2Bw1",
     "B4121OOh13i117259f1w1t1111484137A2D1F1w114481K2Q122v1142422331U231B2v11451241K2M611w112114",
     "8172B2U1z11C1o1131t1113531472B2T1w11216152K2S2v124481K2T1e217311w2127B9Y31299117f22R11111t",
     "1E15125B1a191c34161222P243G4D12261F1-21WJ3oT3T2U2U2W2217812B3151j15p11X22Y11s33429163x6221",
     "w11171111286A21d118k12CK4m11151151e19C2W142213u11123113w1822W26o231D17416132o1_1D1Y1b3zD11",
     "3B3D3D3D2C582A12125n151A11D1GDp1X1hy22n33z31F1W3W1l11rE1a143551z26z23suR1Yd16k81Y341A11S4m",
     "22EY1k21N3c3432813141P251t42QID1c18PBk13m112422H1L2Y262222C181Z11B1p1113225211R1E25211a359",
     "3v312141mvJ1p4HzHG31CGY1121f517161B1Z1111l11j12Z21L3XG1Y71r45bW161g119cI31254e1341b52zH4c1",
     "1Q511x92O1q16c2Bn14x31s1Ff1122A3n14222141A1o13a1518-11C2q19A421_2321126121z4138L2v1231b173",
     "5c26D11111E2r282311N1q26114212k746212R2r282112g31112611b31112415Z8912W821141m442241W1Ae162",
     "4819623k1D12c611311f671611o2M271212w3631121711e223111X21v82B2q155111N1rc5H6FecBC33Wk25x179",
     "4yF3e12YF1_1HW2212D2y_F41712-a3214yo4k12NWH39G27U4q43xz1t14o181E1M51Fmg171H2712155-1X11W5E",
     "mB1z14xF5-72p7121725191mE7j38lr25XWZO1UW3W4m7"]
  | .cased =>
    ["X2Q6Ql11A1415N1V1Z6144m62Z172U5W31g142224116113111K1p21h48c51c19f1tu2c111512h114WLs226Ya2B",
     "5h123W2W6W2s8262c126281111111V2r11711331734264D5317q31D1GDb31412A1135611111141641245541HW1",
     "32nPq1su1b76432Cc11151oeUk1IUa4c3341j2K613rPh11E6m2WwJ7C5fW1Q6Qbb1m2W3a14a1q3B1F17121B1F17",
     "12ZE1231g119bc1p1Dp1z2MAMwu2W2WhLW2W1P2PifPr21d2122122241C11171X21428171S141511371qA2P1P1V",
     "1P1V1P1V1P1V1P18qv1A1K66b8-1oa2a2i_1Q6Q6Q"]
  | .changesWhenCasefolded =>
    ["X2Qw21AN18W1111111111111111111111111111111111111111111111111111111121111111111111111211111",
     "111111111111111111111111111111111111111121111111211121324121332121111121121121311123172121",
     "211111111111111112111111111111111112211131111111111111111111111111111111111111111111111111",
     "1111111117212211411111111s71g11113181611311121H19M1C332111111111111111111111111122211122p1",
     "m11111111111111111111111111111111119111111111111111111111111111111111111111111111111111111",
     "211111111111121111111111111111111111111111111111111111111111111111111111111111111111111111",
     "11111111111111111112c1m11uu2c11151gP6Ya2A6h123WA111111111111111111111111111111111111111111",
     "111111111111111111111111111111111111111111111111111111111111111111111111111111111111111111",
     "111111111111111115221111111111111111111111111111111111111111111111111111111111111111111111",
     "1111111111111111111111111119886A88886B111111188Gm123265326B4C55326f913261j1GJ1oPQmv1m1m111",
     "321111114112183111111111111111111111111111111111111111111111111111111111111111111111111111",
     "11111111111111111111111811141jgU111111111111111111111111111111111111111111111J111111111111",
     "111111111111111d41111111111111311111111111111111111111111111111111111111111111111111111111",
     "11A111121111111141112111311111111111111111111515111111111111111411121111111111111111O1wRm2",
     "WwJ7C5fW1Qbc1e1e4a1y4B1F1712gt1p1z4Mwv2W1WiLW1W2PdoUY1"]
  | .changesWhenCasemapped =>
    ["X2Q6Qw11AN1V1W21q21S2E22114z21I6R1211123214152112217121123651A2c51g142233116113111K1l13X11",
     "51b48c51c1Ad1uu2c111512h123WLs226Ya2B5h123v5131G1n3y4211s3262c126281111111V2r1171133173426",
     "4D5317f913261R1HW132nPq1su1n312127c37432Cc11151oeUk1ISc4E2-19F33251P1j1O2yQ1Sm2WwJ7C5fW1Q6",
     "Qbb1m2W3a14a1q3B1F17121B1F1712Zs1p1Dp1z2MAMwu2W2WhLW2W1P2PinUa2"]
  | .changesWhenLowercased =>
    ["X2Qb3N17X111111111111111111111111111111111111111111111111111111112111111111111111211111111",
     "111111111111111111111111111111111111112111132111213241213321211111211211213111231721212111",
     "111111111111121111111111111111122111311111111111111111111111111111111111111111111111111111",
     "111117212211411111111X91113181611311121H19Z118111111111111111111111115121122p1m11111111111",
     "111111111111111111111119111111111111111111111111111111111111111111111111111111211111111111",
     "121111111111111111111111111111111111111111111111111111111111111111111111111111111111111111",
     "11111112c1fw2c11151oMs2pa216h123WA11111111111111111111111111111111111111111111111111111111",
     "111111111111111111111111111111111111111111111111111111111111111111111111111111111111111111",
     "111911111111111111111111111111111111111111111111111111111111111111111111111111111111111111",
     "111111111119886A88886B111111188O8888885B5B4C5B5f913261j1GJ1oPQmv1m1m1113211111141121831111",
     "111111111111111111111111111111111111111111111111111111111111111111111111111111111111111111",
     "1111811141jgU111111111111111111111111111111111111111111111J111111111111111111111111111d411",
     "1111111111131111111111111111111111111111111111111111111111111111111111111A1111211111111411",
     "12111311111111111111111111515111111111111111411121111111111111111O1hvLQbc1e1e4a1y4B1F1712g",
     "t1p1z4Mwv2W1WiLW1W2PdoUY1"]
  | .changesWhenNfkcCasefolded =>
    ["X2Qb21711121112423131N18W11111111111111111111111111111111111111111111111111131121111113111",
     "111121111111111111111111111111111111111111111111112111111121112132412133212111112112112131",
     "112317A11111111111111211111111111111111241311111111111111111111111111111111111111111111111",
     "111111111117212211411111111X39V625x221391W1111111131324711121H19M1C81111111111111111111111",
     "11131211122p1m1111111111111111111111111111111111911111111111111111111111111111111111111111",
     "111111111111121111111111112111111111111111111111111111111111111111111111111111111111111111",
     "111111111111111111111111111111112c1m11q41u24_M8y3211p2121Y1321z72rM1_31e12k11s1191414141C1",
     "911571H191414141C1c7c11151k11Y32tK6sT2r25mZ1A6h123i331B1I1SD1Y1b1W211111111111111111111111",
     "111111111111111111111111111111111111111111111111111111111111111111111111111111111111111111",
     "111111111111111111111111111111111111522111111111111111111111111111111111111111111111111111",
     "11111111111111111111111111111111111111111111119886A88886B111111188111111111111112m1232E293",
     "14413314823281G1151C3363212411183D17J2R1DB1t24131B122523111111141B16456m13151Y5212u72r9h4X",
     "f11d33b31Z9m1m1113211111141121651111111111111111111111111111111111111111111111111111111111",
     "1111111111111111111111111111111111111111811141y31l91p21Cs6g11r1113W3221_21n1-23EW3V1e18l11",
     "WCWoS111111111111111111111111111111111111111111111J11111111111111111111111111112a411111111",
     "111113111111111111111111111111111111111111111111111111111111111111111811112111111114111211",
     "1311111111111111111111515111111111111111411121111111111111111K522YR4916m2WgJk821112A111122",
     "3a22g3c17C5511O151112121i3X1hBIW22s1e1D3QML2C1J1443111d4211-536262623371719dW1e1e4a1y4B1F1",
     "712hF51g119bc1p1z4Mwv2W1WiLW1W2PdlJ4oX4a1aZ17E8W26_Hr21d2122122241C11171X21428171S14151137",
     "1qA2a92o1mX2-1oa2Y1-c141R1211211A141111614111111312112111111111121124171414111A1H53151HaIB",
     "5V1W1Q3Z11l33Di14972-i2AcW_1-GYlXMWW4"]
  | .changesWhenTitlecased =>
    ["X3Qw11f1O181111111111111111111111111111111111111111111111111111111121111111111111121111111",
     "111111111111111111111111111111111111111211113211121315121332121111121412131112131114112121",
     "111111111111111121111111111111111131111311111111111111111111111111111111111111131111111111",
     "111111181221141111111161211123214152112217121123651A2c51h11113133I1RZ112331111111111111111",
     "11111115112121q1m1111111111111111111111111111111111191111111111111111111111111111111111111",
     "111111111111111121111111111112111111111111111111111111111111111111111111111111111111111111",
     "111111111111111111111111111111111111n1d1mp36Ya2911k7131G1o31111111111111111111111111111111",
     "111111111111111111111111111111111111111111111111111111111111111111111111111111111111111111",
     "111111111111111111111111111751111111111111111111111111111111111111111111111111111111111111",
     "111111111111111111111111111111111986A88886A8888E2888888512613312842288A312sA1X1G41hQQcw1m1",
     "11321111116121A111111111111111111111111111111111111111111111111111111111111111111111111111",
     "111111111111111111111111811141Cc11151peU111111111111111111111111111111111111111111111J1111",
     "11111111111111111111111d411111111111113111111111111111111111111111111111111111111111111111",
     "1111111111A111211111111141411221111111111111111111B11111111111111141112111111111111111Q1yQ",
     "1Sm2WwJ7C5fX1Qjc1e1e4a1x4B1F1712Zu1p1z3Mwv2W1WiLW1x1PkoUY1"]
  | .changesWhenUppercased =>
    ["X3Qw11f1O181111111111111111111111111111111111111111111111111111111121111111111111121111111",
     "111111111111111111111111111111111111111211113211121315121332121111121412131112131115212121",
     "111111111111112111111111111111112121131111111111111111111111111111111111111113111111111111",
     "1111181221141111111161211123214152112217121123651A2c51h11113133I1RZ11233111111111111111111",
     "111115112121q1m111111111111111111111111111111111119111111111111111111111111111111111111111",
     "111111111111112111111111111211111111111111111111111111111111111111111111111111111111111111",
     "1111111111111111111111111111111111n1d1ew2h123uN6Ya2911k7131G1o3111111111111111111111111111",
     "111111111111111111111111111111111111111111111111111111111111111111111111111111111111111111",
     "111111111111111111111111111111175111111111111111111111111111111111111111111111111111111111",
     "1111111111111111111111111111111111111986A88886A8888E2r1124111331241342288A31241nA1X1G41hQQ",
     "cw1m111321111116121A1111111111111111111111111111111111111111111111111111111111111111111111",
     "11111111111111111111111111111811141Cc11151peU111111111111111111111111111111111111111111111",
     "J111111111111111111111111111d4111111111111131111111111111111111111111111111111111111111111",
     "111111111111111A111211111111141411221111111111111111111B1111111111111114111211111111111111",
     "1Q1yQ1Sm2WwJ7C5fX1Qjc1e1e4a1x4B1F1712Zu1p1z3Mwv2W1WiLW1x1PkoUY1"]
  | .dash =>
    ["j11yg11p11Xo31bW11fW26z11d11F1cC1aW3121V241S1-D1J1l31mip12b11A1f51Wp31-91"]
  | .defaultIgnorableCodePoint =>
    ["j51XL1iM1Yw22po12r25x_15Q5n1Gqd41xap1Gl71W51l29dbl14lc58bqhOWW4"]
  | .deprecated =>
    ["fA1ff11Ze2111fX22bc26vL2sctR1"]
  | .diacritic =>
    ["-2111d21614122tF_41856H24192z75n61t1j111121211Z4842c424233Z2Rx2Bw1BY12-38f1AGSz11G134S1g21",
     "G1k31G1k31G1l13y11G171t31k31G1k31G1j32G1y31l31C611h31D5h22R1111142Y2312-11m3112e1245P711A2",
     "XM3qT2U1q4B91xA3a91K821m1F2B3F2Ce21F1c19s12w11B2Y22W26o2P416123o1_1m1a15Cb1BzD113B3D3D3D2m",
     "d33z91wF6f34_21ohT1C211S2o22EY1c33c3162C1b11t41RIv14a11_21C1a11r43X24p11a3593W42mvJ1XOGk81",
     "11l11j12Z21yN1_a161g119zJ341b52xH6c11Q5iC123c2Bn14W61f11e22u32-11i2193e32o52m22G1O735v2312",
     "D2_2131x32x72-31s32p31j82Y8241y41p21I1n21bD1Y8112n21X21dB2N1id5FvcB1Wk25x17qH2YHHm22-_F417",
     "12Xu7k12NWH3368827U4Yq3-1Y67tB1z14-N2WN7j3313"]
  | .emoji =>
    ["Z11615Al3141jy71C1u61M1w26F2lB2C1c51PB43d61d72A191w1415912122214121122131328351115CB221121",
     "1I122I6111232512242B25221521112K256142141212611211111613161A2F12141114311B2m1391E1E1qB2lE3",
     "J2p1141wc11C1vI111ghl31g61W52C2E12Ah2Q12N1K129L2k5Y12m322132p2231d81_1B61O7228C1242142D221",
     "829153C38321114161316s2m1c258243A3112312AZ7C41x8l11A1v5m3D3B3v1114G2C4A"]
  | .emojiComponent =>
    ["Z11615Ap-71r61hft11s-y1QxF5mj14ipXOW3"]
  | .emojiModifier =>
    ["x_y35"]
  | .emojiModifierBase =>
    ["zm91x61G4tZp31y132123r322BLJ3143137111O1f6241L142k5335p21G391B1_H12188619A23u11z121211H31D",
     "b73g19"]
  | .emojiPresentation =>
    ["wu82j643121fG2L2o1Ch11J1D182H2528151L1721141217142S1Z11114311z13O1E1xQ2p1141kbn31g61-512Ah",
     "2Q11O1K12513L2k5X1C91c21MCh145CH313d2111x52_1D41OI1Q2D1s2r2m1c261332434B279Z7C41x8l11A1v5m",
     "3D3B3v1114G2C4A"]
  | .extendedPictographic =>
    ["f5141jy71C1u61M1w26F2lB2C1c51PB43d61d72A191w1415912122214121122131328351115CB2211211I122I6",
     "111232512242B25221521112K256142141212611211111613161A2F12141114311B2m1391E1E1qB2lE3J2p1141",
     "wc11C1vI111ghl31d14a3CF2F1E2b1Am32C2E12AJu1RFA1K129149N6y52m322132p223145-71_1B61O7228C124",
     "2142D221829153C38321114161316s2m1c2582H31162Dw6c1C4u18A6e18U2C42E9d1Cl11A1v5u28Eo4W8-V"]
  | .extender =>
    ["t51uG2kR1vD1sJ1f41v21mN1_31Zg21u11ZJ1kC1a21fy41h15d32z23suR1sl11YU1M1f41i31L2xZL1mW22hk11R",
     "141dc11b91q32oF3lc11WQ1ehJ2ya1211E2egS2nb11qQ3"]
  | .graphemeBase =>
    ["W1_2X1D1oIm382647111K1W77c51c12o123k111121219R46HAB11k1LG1b38162214W1211UTv2B1Eh1973O41913",
     "17F1P511B5W1Gg1v1t1111484137A2T1218222M1711343112622211D2134O5116422M1712121243O4117A2311C",
     "119131M17121534811231F24C718218222M17121531216222F2134IB116331432111232333C5112331331LL631",
     "8131N1G3134J312224A7A1B131N1A15322112N3124A13EB131f12112531312431A4Q221I3O19112792677A23Cm",
     "112B88Db1211151O111A129125119A24W1O2R11111E1a1I15125n18161Db1j14161222P243G4D12261F1e11151",
     "2vB142711142f1142X1142711142F1v1142Z25T3Q6s2262zK3v27IDJ329IED13Fq1217812B93A6A6B5A6v2752Y",
     "1115c2AV44234216713g125Bi14Q6B3v1223u111911286DA6A6Es2m1A4381T9C2W1426u1112311Dm1825F3-15h",
     "12BB1D1741613215W6W2s8262c126281111111V2r11F1E261J23191B5O7n1G22R1D3Y1-1i44wKMBLqu12vB325j",
     "111512u172FN9717171717171717X1-2Y1Q1v2Cs6Qw16G1s24b35h11-21s29m11jpS3t19yAKl141AW12m2268z6",
     "KH13141P254A6u18a2ACOD1c18PB1CU6m11242221D1B471P1f16222B318112A2W11p11132252111OH28B626269",
     "7171y14r312143A6azACN4n1ae8kB2g3c17C5511O151112121gKW1GGAMZ11J14451d44z42V362626233717D22C",
     "1Q1J121F2EY1x3534j13u21D31l1j1Z4T3n1GR4a19U5c1AU1b14Eg1-42A6a14a14e18q1BC1F17121B1F17123q1",
     "Ct99MA8O61g119b26211i112312N1e289m1J125X13R5Rc1u14K2l1F4131TA9797W2W1b16C9s13T2R5Q74C7m2f2",
     "t1p1Dp17g1CA6c18O82m6V1g13122G689d1e18MB9MI44c1SKN911s1F74U1221Cn1422214EP7A9a1519I8Z113Bq",
     "19118421G1KBI1S324612_1711141F1B6l113DA8218222M171215311114222231C7SA11211c11112F112311312",
     "d1u182311L1113Um11261121121248Ac5l11264212Ra1p1821124BA6DJh11112826A6KSR3112419Nv5l19121a3",
     "p2C82128121O151264139Ac282g18414R1Ae1624891623k1D129Df27At213111u2Y1EA691c1E116AT3W1P17121",
     "h27121c1L19A66121b14211117A6i14As7J249F1a1823Ns21Fo1DxSc3l315Ba6io2Z3DmX1H6Pxy35dIvr6UC33A",
     "cs1vH7V1A4n21A6U71Am17FAA171L5JmDw1c6x25P2Pi1h25u1BDW24E59sc7f1W1X3p3zl8417121Z9F1T321E48i",
     "Cae2h35D397A2121Wx3z73qD6NFH_2q3y1s7Ad12y153M27U4z1LY231w3KCKCt29Pd4r21d2122122241C11171X2",
     "1428171S141511371qA2a92oHt14o181E17qZ1V66b8-1o4j1A72A42WAUIi14A51mES4As6U2B41W6V1312172592",
     "W7714121F1b629m1a2714A42nOa2i2z1Y641R1211211A141111614111111312112111111111121124171414111",
     "A1H53151Hq12k8i14a3CF2F1F1b1Ak5u1TDi14972E6w4vU3H3D3w66C41FC4u18A6e18U2C42E9d1uA8E2D3B3v11",
     "14G2C4A7p41d3bW1Wtf1W1-e42kq52nf7FkJYj2-GYl1hw45gf8"]
  | .graphemeExtend =>
    ["WOm3p87d8j111121211e2Bm1LG1b37262214Z11URx2Bw1991O4191315h13x19g1O1W1t1111484137A2T1w11112",
     "48191A2Q122v1142422331U231B2v11451241K2M611w1112148173A2U1x1111C191e1131t1113531472B2T1w11",
     "2211331472B2S2v1211248191A2T1e2141231181n2127C8Y3129B7f22R11111t1E15125B1a191c34161222P243",
     "G4D12261F1_L3oT4S3T2U2W2217812B91j1311r32Y11s33429163x6221w11171111286A21m1k12CK4m1A43c19C",
     "2W1426u11123115u1822u431D17416132c6W2iG1Z6X1-_23j41W3W1gH6f32qkT41AW12m22m813141P251t42QID",
     "1c18PB11i13m11242221a11Z262222C181l11p1113225211g1281k712141mvJ1XNGGGkB2zI1Y71r45cq131254e",
     "1341b52zH4X25z92j26c2Bn14x31s1Ff1122A3n142271z13a1518-11C2q19118421_23246121z4138L2v121111",
     "C191E735Z21261121134311E2r282311N1n212611211212h71246212R2r282112g311128b31112415Z8912r71A",
     "441m442241W1Ae1624819623k1D12c611311f671611o2M271212w3631121711e223111xA2B2q1553N1bd516Fec",
     "BC33Wk25x17uW11_14n21B2hbJ2Xp4k12N-G5368827U4q43xz1t14o181E1M51Fmg171H271215a31W57tB1z14yF",
     "4-72p71217251wE7j37rsbOW3W4m7"]
  | .hexDigit =>
    ["m1A76Q6fr_1A76Q6"]
  | .idsBinaryOperator =>
    ["m_B22AnF1"]
  | .idsTrinaryOperator =>
    ["o_B2"]
  | .idContinue =>
    ["m1A7Q411Ql11A111215N1V1gE4CE57111Hr312241165111K1p21h4152c51c1216f18j1111212118R44TB5g24c3",
     "182A1J21Gx12b3Es141212k1IS4B5O177h21X42A1J18222M1711342922248142152CA1112316422M1712121221",
     "1542233174117GB319131M1712152A131321F42A971318222M1712152922237342152A11G21633143211123233",
     "3C4533142161EAGD131N1G291314721312242AG418131N1A152913147253142A13CD131p1131554752AA6131I3",
     "O191127314611186A22Dw15F1Ad1211151O111N2511171A24W11N26AB111114A1a14K1I1a191v1g26k22c11151",
     "2h11jA142711142f1142X1142711142F1v1142Z22399EGGs2263iJ2H1Q5h23B7M9MBKCD1312Cq231422AX131B6",
     "v27h15c2AV1C4CAe125Bi14Q6Bb1S4_11T2B6AD18E1V2CKj23AH9Cq3Cu18A3n12B5h123G31d15sG262c1262811",
     "11111V2r11711331734264D5317F2n12J1S1D1GDp1D413CH1412A11266111111G245541Hf1tp2b769Cc111512u",
     "171FO97171717171717171W1bG3PF15254s2271_25h11-2HW1m1GWGWk6W2jqLZ2k12j83SKm14A1p3b192d32o2K",
     "t141Jq1Cc2AA6O311n12a1CT3X2EB6V1t19E2A6N3f2O32G25A6262697171h11E6x3122A6azACN4n1ae8kB2g3c1",
     "7C55C1D151112121i3X1hBIW22s1e1C4GGG32O3W151d4JA7Q411QAw236262623Z1C1Q1J121F2EY1x3b2r1e41Y4",
     "T3n1F1VW1DU5h15U2a14815g1-42A6a14a14e18q1CB1F17121B1F17123q1Ct99MA8O61g119b26211i112312NAN",
     "9VX2J12AMAQ6Qc1u162W241258131T2341W1T3TZ181UPs1AMAJDIk3f2t1p1Dp1De18A6c1351Nw7g11232G6o1Z1",
     "A18X1VMg1LRN9d2VG9y171DP7A6r11A448a1219b2441D11Z1I1b164-1711141F1A7x15A6418222M1712151A222",
     "32161572735BA11211c11A11211418D2Th25A44Uc2118Ac5s129N6Y1X231BAc1v17A6KSR2F4A67v5x1b3g2L821",
     "28121U1229CAc282k12812R_1818g231If2d38u2X1FA691j119FAOU2M1Ef27121i13112198A66121b112167A6i",
     "14As7N9H1f135DBr21l2wSc3l3Ha6io2X3FmX1GMAxy35dIvr6w1cs1vH7V1A6l21A6U25Bt194CA9L5JmDj13Ac6W",
     "2W1P2Pi1h24v17HW2212B79sc7f1W1X3p3zl8417121Z9F1T321E48iCae2h35D397A32nY4AcGk12N-G5368827U4",
     "q43xDr21d2122122241C11171X21428171S141511371qA2P1P1V1P1V1P1V1P1V1P182o1WGt14o181E1M51FmY1V",
     "66r671H2712155-1X11m3j13E2A41XAVHw1sEg1s6h1b6V1M82W7714121F1b6B7f1i24Acb141R1211211A141111",
     "614111111312112111111111121124171414111A1H53151Hqf3AcW1Wtf1W1-e42kq52nf7FkJYj2-GYl1hw45gf8",
     "capLm7"]
  | .idStart =>
    ["X2Q6Ql11A1415N1V1gE4CE57111X451224116113111K1p21h48c51c1216f1d2R44j1h1Z121Z311F272A321G11U",
     "Tv2B1OX192415M419131NP7B5O17Gg1w1s131I17AFG48222M17113431G1D213E2A186422M17121212V411J3G91",
     "31M17121531I1F2N1B8222M17121531U213F1H116331432111232333CM1q18131N1G31Q31222U148131N1A1531",
     "U312F2H9131f121G15383O65I3O191127w1m112C7w1211151O111A12912511L4W11_181a1R5p3h1K1G64431327",
     "34DC1Hc111512h11jA142711142f1142X1142711142F1v1142Z2b1GGs2263iJ2H1Q5h23B7IDJEIED13Fq1Z1141",
     "Z2v27f1115c2AVn1U25Bi14Qs1N9r1o21z2l1H8s1UD2Ai1Qa1f13Aa12B5h123f141612315W6W2s8262c1262811",
     "11111V2r11711331734264D5317q31D1GDb31412A11266111111G245541Hf1tp2b76432Cc111512u171GN97171",
     "71717171717cH3P975254s2451w2145h11-2HW1m1GWGWk6W2jqLZ2k12j83GA2Kl1GV2m2d192d32o2KH13141NTq",
     "1Eo1-163112BSANPT7l1S1G51AA51f1N318KN313o11132252111O32B73C6262697171h11E6p3TazACN4n1ae8kB",
     "2g3c17C5511A1D151112121i3X1hBIW22s1e1Cq351d4a1Q6QBv236262623Z1C1Q1J121F2EY1x3b2r1h8T3n1l1W",
     "1DU5c1AU2a14815g1-4Ia14a14e18q1CB1F17121B1F17123q1Ct99MA8O61g119b26211i112312NAN9VX2J12AMA",
     "Q6Qc1u162W21F4131Tg1T3TZ181SRs1AMAJDIk3f2t1p1Dp1Da1c1S9Nw7g162G6u1TA18Mg1Ik1LRNCr1v1221Dj1",
     "W1PQa1T1218Z131Cm1E4L111Z1I1PJ2_1711141F1A7l1c18222M17121531I1C5UA11211c111P111i1r1I4K3Um1",
     "K211u5l1f14a1m1K1x1h1D1d2Rb17v5i1q3W2V82128121OF111-282d1G111S1Ae171L1Bk1J1If2d6X1V91b1H1n",
     "1Um37121c1L1P6121W1E1Ni1a8JF11D1Y1y31l2wSc3l3Ha6io2X3FmX1H6Pxy35dIvr6UYt1vH7VHl2HUIm1G4VL5",
     "JmDj1p6W2W1P2Pi1h251Y2DW2211E59sc7f1W1X3p3zl8417121Z9F1T321E48iCae2h35D397Acx5r21d21221222",
     "41C11171X21428171S141511371qA2P1P1V1P1V1P1V1P1V1P18qv1V66b8-1o4j1A7G1XAUIi1aFSa7U21l6V1312",
     "172592W7714121F1b6x1a271qb141R1211211A141111614111111312112111111111121124171414111A1H5315",
     "1Hag4Wtf1W1-e42kq52nf7FkJYj2-GYl1hw45gf8"]
  | .ideographic =>
    ["cWC2P9E3bUWk6W2WmKWeMkB2g3geT1D59sc7f1W1X3p3zx8iCaeJWtf1W1-e42kq52nf7FkJYj2-GYl1hw45gf8"]
  | .joinControl =>
    ["iW82"]
  | .logicalOrderException =>
    ["Wo35x35mt2321wda122112"]
  | .lowercase =>
    ["X3Ql11A141a1O18111111111111111111111111111111111111111111111111111111121111111111111112111",
     "111111111111111111111111111111111111111111121111321112132412133212111112112112131112223612",
     "121111111111111111211111111111111111221113111111111111111111111111111111111111111111111111",
     "11111111117212211411111111b22Z172U5W31h11113124I1RZ11233111111111111111111111115112122p1m1",
     "111111111111111111111111111111111191111111111111111111111111111111111111111111111111111121",
     "111111111112111111111111111111111111111111111111111111111111111111111111111111111111111111",
     "111111111111111111m1f1dw2h114uN6Ya2911r3W6X21111111111111111111111111111111111111111111111",
     "111111111111111111111111111111111111111111111111111111111111111111111111111111111111111111",
     "111111111111911111111111111111111111111111111111111111111111111111111111111111111111111111",
     "11111111111111111111986A88886A8888E2888888512613312842288A312v31D1GDj313231R14141228441X1G",
     "41hQQcw1m111321111114112183111111111111111111111111111111111111111111111111111111111111111",
     "111111111111111111111111111111111112711141Cc11151peU11111111111111111111111111111111111111",
     "1111111J111111111111111111111111113b411111111111131111111111111111111111111111111111111111",
     "111111111111111111111A11112111111111411121131111111111111111111151511111111111111141112111",
     "111111111111L41113rPh11E6m2WwJ7C5fX1Qjc1e1e4a1x4B1F1712ZE1231g119be1p1z3Mwv2W1WiLW1x1PcgPQ",
     "Q71IQQQ411171BQQQQQQQQQQQQQQQQQSSP16QP16QP16QP16QP1611qv1A1K66b8-1qb2Y1"]
  | .mathematical =>
    ["h11G3V1T111j1141b11V1uM321Q223lG3jm61R3B131D1E4L5B5X2D413245I1412A112661322213163E11a2O161",
     "2424W11162Ei884K2w21UR11O1B7zD2CA46422235E11126B852v1111T493mAW2W8WGm1L26y-p11tP611Y51G3T1",
     "11T111Z4164Xj32Whm11le1r21d2122122241C11171X21428171S141511371qA2a92o1Wm541R1211211A141111",
     "614111111312112111111111121124171414111A1H53151Hq12-k29"]
  | .noncharacterCodePoint =>
    ["mk_1W1kG2-__12-__12-__12-__12-__12-__12-__12-__12-__12-__12-__12-__12-__12-__12-__12-__12"]
  | .patternSyntax =>
    ["X1FA7Q411Q4Y1711121112414131N1V1uu7O8F2J1An9mMW5sJUiZ1WGW4XC34PF1jep12b82"]
  | .patternWhiteSpace =>
    ["95I1a31ey72O2"]
  | .quotationMark =>
    ["Y1141Z41F1yw78P2dm31fE4D3Xnp14z5141w22"]
  | .radical =>
    ["WqBQ1v2Cs6"]
  | .regionalIndicator =>
    ["cly3Q"]
  | .sentenceTerminal =>
    ["X11C1G1fg11p43q51h13s71z111132b92at12sO142bO1c62z42j1151w92YB4Y52A222T3x52X22aT1N293lb33o9",
     "1D1M2jD1ydT1k82Z7131-B2s22_21u42p43m42v71cnK122x1132f51C1G1X21qt22zd15i14z52r34_33X4261G2u",
     "2212i31g92r32rB25Ff32v73bG111x72t22aD2qL2g22fvI2b41X22B1fH2e91cmJ1el71"]
  | .softDotted =>
    ["f32a61v81U1q11K1WA1Y3111fe61p11D131a41z41bD1s62ov21bzf32o12o12o12o12o12o12o12o12o12o12o12o",
     "12ca21n92Q1"]
  | .terminalPunctuation =>
    ["X11A111B231-P181XG1v11e21E113q51h1B11h72s1618V1b82qd12i5146t92rO8bO1y33d22z4331d1422w92YB4",
     "Y52A213T3x55-12aT1N293lb33o91D141A11232iD2xdT2j83Z75-B2s22_21t43p43_31G2v71cnK122v1314f51A",
     "111B231X2121wX11m11ca11d61s92u46a26v24uT5i14z57m34_33X4261G2u25i31g92r33C2cB43Ff32v73bG111",
     "x72t2242-C3j11bK2g22hf15vlH2b41X23A1fH2d92cmJ1dl74"]
  | .unifiedIdeograph =>
    ["WWDWk6W2WmKkmM21112A1111223skX2Wtf1W1-e42kq52nf7FkJYj4hw45gf8"]
  | .uppercase =>
    ["X2Qb3N17X111111111111111111111111111111111111111111111111111111112111111111111111211111111",
     "111111111111111111111111111111111111112111132111213241213321211111211211213111231712121211",
     "111111111111121111111111111111121211311111111111111111111111111111111111111111111111111111",
     "111117212211411111111X91113181611311121H19Z11233111111111111111111111115121122p1m111111111",
     "111111111111111111111111191111111111111111111111111111111111111111111111111111112111111111",
     "111211111111111111111111111111111111111111111111111111111111111111111111111111111111111111",
     "1111111112c1fw2c11151oMs2pa216h123WA111111111111111111111111111111111111111111111111111111",
     "111111111111111111111111111111111111111111111111111111111111111111111111111111111111111111",
     "111119111111111111111111111111111111111111111111111111111111111111111111111111111111111111",
     "11111111111119886A88886B111111188e24C4C4C5B4c8141332321356111111424A251QGJ1oPQmv1m1m111321",
     "111114112183111111111111111111111111111111111111111111111111111111111111111111111111111111",
     "11111111111111111111811141jgU111111111111111111111111111111111111111111111J111111111111111",
     "111111111111d4111111111111131111111111111111111111111111111111111111111111111111111111111A",
     "111121111111141112111311111111111111111111515111111111111111411121111111111111111O1hvLQbc1",
     "e1e4a1y4B1F1712gt1p1z4Mwv2W1WiLW1W2PdgPQQQQQQ11221222418QQQ2142817R214151137RQQQQQQQQQQQUP",
     "X1PX1PX1PX1PX11rf4Y1kW2Q6Q6Q"]
  | .variationSelector =>
    ["hW6311mlv1GmtWQm7"]
  | .whiteSpace =>
    ["95I1a31Q1_k51_h2BT251l11Wz31"]
  | .xidContinue =>
    ["m1A7Q411Ql11A111215N1V1gE4CE57111Hr312331165111K1p21h4152c51c1216f18j1111212118R44TB5g24c3",
     "182A1J21Gx12b3Es141212k1IS4B5O177h21X42A1J18222M1711342922248142152CA1112316422M1712121221",
     "1542233174117GB319131M1712152A131321F42A971318222M1712152922237342152A11G21633143211123233",
     "3C4533142161EAGD131N1G291314721312242AG418131N1A152913147253142A13CD131p1131554752AA6131I3",
     "O191127314611186A22Dw15F1Ad1211151O111N2511171A24W11N26AB111114A1a14K1I1a191v1g26k22c11151",
     "2h11jA142711142f1142X1142711142F1v1142Z22399EGGs2263iJ2H1Q5h23B7M9MBKCD1312Cq231422AX131B6",
     "v27h15c2AV1C4CAe125Bi14Q6Bb1S4_11T2B6AD18E1V2CKj23AH9Cq3Cu18A3n12B5h123G31d15sG262c1262811",
     "11111V2r11711331734264D5317F2n12J1S1D1GDp1D413CH1412A11266111111G245541Hf1tp2b769Cc111512u",
     "171FO97171717171717171W1bG3PF15254s222231_25h11-2HW1m1GWGWk6W2jqLZ2k12j83SKm14A1p3b192d32o",
     "2Kt141Jq1Cc2AA6O311n12a1CT3X2EB6V1t19E2A6N3f2O32G25A6262697171h11E6x3122A6azACN4n1ae8kB2g3",
     "c17C55C1D151112121i3X1h46w6IW22s1e1A6GGG32O3X1111311111111-3JA7Q411QAw236262623Z1C1Q1J121F",
     "2EY1x3b2r1e41Y4T3n1F1VW1DU5h15U2a14815g1-42A6a14a14e18q1CB1F17121B1F17123q1Ct99MA8O61g119b",
     "26211i112312NAN9VX2J12AMAQ6Qc1u162W241258131T2341W1T3TZ181UPs1AMAJDIk3f2t1p1Dp1De18A6c1351",
     "Nw7g11232G6o1Z1A18X1VMg1LRN9d2VG9y171DP7A6r11A448a1219b2441D11Z1I1b164-1711141F1A7x15A6418",
     "222M1712151A22232161572735BA11211c11A11211418D2Th25A44Uc2118Ac5s129N6Y1X231BAc1v17A6KSR2F4",
     "A67v5x1b3g2L82128121U1229CAc282k12812R_1818g231If2d38u2X1FA691j119FAOU2M1Ef27121i13112198A",
     "66121b112167A6i14As7N9H1f135DBr21l2wSc3l3Ha6io2X3FmX1GMAxy35dIvr6w1cs1vH7V1A6l21A6U25Bt194",
     "CA9L5JmDj13Ac6W2W1P2Pi1h24v17HW2212B79sc7f1W1X3p3zl8417121Z9F1T321E48iCae2h35D397A32nY4AcG",
     "k12N-G5368827U4q43xDr21d2122122241C11171X21428171S141511371qA2P1P1V1P1V1P1V1P1V1P182o1WGt1",
     "4o181E1M51FmY1V66r671H2712155-1X11m3j13E2A41XAVHw1sEg1s6h1b6V1M82W7714121F1b6B7f1i24Acb141",
     "R1211211A141111614111111312112111111111121124171414111A1H53151Hqf3AcW1Wtf1W1-e42kq52nf7FkJ",
     "Yj2-GYl1hw45gf8capLm7"]
  | .xidStart =>
    ["X2Q6Ql11A1415N1V1gE4CE57111X451233116113111K1p21h48c51c1216f1d2R44j1h1Z121Z311F272A321G11U",
     "Tv2B1OX192415M419131NP7B5O17Gg1w1s131I17AFG48222M17113431G1D213E2A186422M17121212V411J3G91",
     "31M17121531I1F2N1B8222M17121531U213F1H116331432111232333CM1q18131N1G31Q31222U148131N1A1531",
     "U312F2H9131f121G15383O65I3O191127w1m111D7w1211151O111A11A12511L4W11_181a1R5p3h1K1G64431327",
     "34DC1Hc111512h11jA142711142f1142X1142711142F1v1142Z2b1GGs2263iJ2H1Q5h23B7IDJEIED13Fq1Z1141",
     "Z2v27f1115c2AVn1U25Bi14Qs1N9r1o21z2l1H8s1UD2Ai1Qa1f13Aa12B5h123f141612315W6W2s8262c1262811",
     "11111V2r11711331734264D5317q31D1GDb31412A11266111111G245541Hf1tp2b76432Cc111512u171GN97171",
     "71717171717cH3P975254s2631w2145h11-2HW1m1GWGWk6W2jqLZ2k12j83GA2Kl1GV2m2d192d32o2KH13141NTq",
     "1Eo1-163112BSANPT7l1S1G51AA51f1N318KN313o11132252111O32B73C6262697171h11E6p3TazACN4n1ae8kB",
     "2g3c17C5511A1D151112121i3X1h46w6IW22s1e1At3111311111111-3a1Q6QBu12V36262623Z1C1Q1J121F2EY1",
     "x3b2r1h8T3n1l1W1DU5c1AU2a14815g1-4Ia14a14e18q1CB1F17121B1F17123q1Ct99MA8O61g119b26211i1123",
     "12NAN9VX2J12AMAQ6Qc1u162W21F4131Tg1T3TZ181SRs1AMAJDIk3f2t1p1Dp1Da1c1S9Nw7g162G6u1TA18Mg1Ik",
     "1LRNCr1v1221Dj1W1PQa1T1218Z131Cm1E4L111Z1I1PJ2_1711141F1A7l1c18222M17121531I1C5UA11211c111",
     "P111i1r1I4K3Um1K211u5l1f14a1m1K1x1h1D1d2Rb17v5i1q3W2V82128121OF111-282d1G111S1Ae171L1Bk1J1",
     "If2d6X1V91b1H1n1Um37121c1L1P6121W1E1Ni1a8JF11D1Y1y31l2wSc3l3Ha6io2X3FmX1H6Pxy35dIvr6UYt1vH",
     "7VHl2HUIm1G4VL5JmDj1p6W2W1P2Pi1h251Y2DW2211E59sc7f1W1X3p3zl8417121Z9F1T321E48iCae2h35D397A",
     "cx5r21d2122122241C11171X21428171S141511371qA2P1P1V1P1V1P1V1P1V1P18qv1V66b8-1o4j1A7G1XAUIi1",
     "aFSa7U21l6V1312172592W7714121F1b6x1a271qb141R1211211A1411116141111113121121111111111211241",
     "71414111A1H53151Hag4Wtf1W1-e42kq52nf7FkJYj2-GYl1hw45gf8"]

def codes (p : Property) : CodeSet := .packed p.packedCodes

/-- The code points that have the property of a name. -/
def codesNamed? (name : String) : Option CodeSet :=
  (all.find? (·.names.contains name)).map codes

end Property

end CollectionRunner.Unicode
