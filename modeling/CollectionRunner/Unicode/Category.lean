import CollectionRunner.Unicode.CodeSet

namespace CollectionRunner.Unicode

inductive Category where
  | uppercaseLetter
  | lowercaseLetter
  | titlecaseLetter
  | modifierLetter
  | otherLetter
  | nonspacingMark
  | spacingMark
  | enclosingMark
  | decimalNumber
  | letterNumber
  | otherNumber
  | connectorPunctuation
  | dashPunctuation
  | openPunctuation
  | closePunctuation
  | initialPunctuation
  | finalPunctuation
  | otherPunctuation
  | mathSymbol
  | currencySymbol
  | modifierSymbol
  | otherSymbol
  | spaceSeparator
  | lineSeparator
  | paragraphSeparator
  | control
  | format
  | surrogate
  | privateUse
  | unassigned
  deriving DecidableEq, Repr, Inhabited

namespace Category

def all : List Category :=
  [.uppercaseLetter, .lowercaseLetter, .titlecaseLetter, .modifierLetter, .otherLetter,
   .nonspacingMark, .spacingMark, .enclosingMark, .decimalNumber, .letterNumber, .otherNumber,
   .connectorPunctuation, .dashPunctuation, .openPunctuation, .closePunctuation,
   .initialPunctuation, .finalPunctuation, .otherPunctuation, .mathSymbol, .currencySymbol,
   .modifierSymbol, .otherSymbol, .spaceSeparator, .lineSeparator, .paragraphSeparator, .control,
   .format, .surrogate, .privateUse, .unassigned]

/-- The names of a category, the short one first. -/
def names : Category → List String
  | .uppercaseLetter => ["Lu", "Uppercase_Letter"]
  | .lowercaseLetter => ["Ll", "Lowercase_Letter"]
  | .titlecaseLetter => ["Lt", "Titlecase_Letter"]
  | .modifierLetter => ["Lm", "Modifier_Letter"]
  | .otherLetter => ["Lo", "Other_Letter"]
  | .nonspacingMark => ["Mn", "Nonspacing_Mark"]
  | .spacingMark => ["Mc", "Spacing_Mark"]
  | .enclosingMark => ["Me", "Enclosing_Mark"]
  | .decimalNumber => ["Nd", "Decimal_Number", "digit"]
  | .letterNumber => ["Nl", "Letter_Number"]
  | .otherNumber => ["No", "Other_Number"]
  | .connectorPunctuation => ["Pc", "Connector_Punctuation"]
  | .dashPunctuation => ["Pd", "Dash_Punctuation"]
  | .openPunctuation => ["Ps", "Open_Punctuation"]
  | .closePunctuation => ["Pe", "Close_Punctuation"]
  | .initialPunctuation => ["Pi", "Initial_Punctuation"]
  | .finalPunctuation => ["Pf", "Final_Punctuation"]
  | .otherPunctuation => ["Po", "Other_Punctuation"]
  | .mathSymbol => ["Sm", "Math_Symbol"]
  | .currencySymbol => ["Sc", "Currency_Symbol"]
  | .modifierSymbol => ["Sk", "Modifier_Symbol"]
  | .otherSymbol => ["So", "Other_Symbol"]
  | .spaceSeparator => ["Zs", "Space_Separator"]
  | .lineSeparator => ["Zl", "Line_Separator"]
  | .paragraphSeparator => ["Zp", "Paragraph_Separator"]
  | .control => ["Cc", "Control", "cntrl"]
  | .format => ["Cf", "Format"]
  | .surrogate => ["Cs", "Surrogate"]
  | .privateUse => ["Co", "Private_Use"]
  | .unassigned => ["Cn", "Unassigned"]

/-- The code points of a category, packed. -/
def packedCodes : Category → List String
  | .uppercaseLetter =>
    ["X2Qb3N17X111111111111111111111111111111111111111111111111111111112111111111111111211111111",
     "111111111111111111111111111111111111112111132111213241213321211111211211213111231712121211",
     "111111111111121111111111111111121211311111111111111111111111111111111111111111111111111111",
     "111117212211411111111X91113181611311121H19Z11233111111111111111111111115121122p1m111111111",
     "111111111111111111111111191111111111111111111111111111111111111111111111111111112111111111",
     "111211111111111111111111111111111111111111111111111111111111111111111111111111111111111111",
     "1111111112c1fw2c11151oMs2pa216h123WA111111111111111111111111111111111111111111111111111111",
     "111111111111111111111111111111111111111111111111111111111111111111111111111111111111111111",
     "111119111111111111111111111111111111111111111111111111111111111111111111111111111111111111",
     "11111111111119886A88886B111111188e24C4C4C5B4c8141332321356111111424A251z11yp2m1m1113211111",
     "141121831111111111111111111111111111111111111111111111111111111111111111111111111111111111",
     "1111111111111111811141jgU111111111111111111111111111111111111111111111J1111111111111111111",
     "11111111d4111111111111131111111111111111111111111111111111111111111111111111111111111A1111",
     "21111111141112111311111111111111111111515111111111111111411121111111111111111O1hvLQbc1e1e4",
     "a1y4B1F1712gt1p1z4Mwv2W1WiLW1W2PdgPQQQQQQ11221222418QQQ2142817R214151137RQQQQQQQQQQQUPX1PX",
     "1PX1PX1PX11rf4Y1"]
  | .lowercaseLetter =>
    ["X3Qw11f1O181111111111111111111111111111111111111111111111111111111211111111111111121111111",
     "111111111111111111111111111111111111111211113211121324121332121111121121121311122236121211",
     "111111111111112111111111111111112211131111111111111111111111111111111111111111111111111111",
     "1111117212211411111111b22QX61113133I1RZ11233111111111111111111111115112122p1m1111111111111",
     "111111111111111111111191111111111111111111111111111111111111111111111111111121111111111112",
     "111111111111111111111111111111111111111111111111111111111111111111111111111111111111111111",
     "111111m1f1dw2h123uN6Ya2911r3i1_1D1Y1c31111111111111111111111111111111111111111111111111111",
     "111111111111111111111111111111111111111111111111111111111111111111111111111111111111111111",
     "111111911111111111111111111111111111111111111111111111111111111111111111111111111111111111",
     "11111111111111986A88886A8888E2888888512613312842288A312o813231R14141228441r11hr2m111321111",
     "114112165111111111111111111111111111111111111111111111111111111111111111111111111111111111",
     "111111111111111112711141Cc11151peU111111111111111111111111111111111111111111111J1111111111",
     "11111111111111111d411111111111131111111111111111111111111111111111111111111111111111111111",
     "11111811112111111111411121131111111111111111111151511111111111111141112111111111111111Q131",
     "rPh1597m2WwJ7C5fX1Qjc1e1e4a1x4B1F1712Zu1p1z3Mwv2W1WiLW1x1PcgPQQ71IQQQ411171BQQQQQQQQQQQQQQ",
     "QQQSSP16QP16QP16QP16QP1611qv1A1K66tl2Y1"]
  | .titlecaseLetter =>
    ["bE12121c11ri788888C1F1l11"]
  | .modifierLetter =>
    ["mLI4CE57111b4151-E1c71a52j8241V19131W51d51qc11_31rH1ws11h31ZJ1mE6k5_1D1Y1b1nL1D1GD_-22n71_",
     "51rE1h1551X32z23suR1Yd16k81o31S2v39m21N1e3432rE1M1f41i31L2d3491cWL1j12W_161g119pi11W11rA1p",
     "u31chJ4yF3e12cHDW2211E2y_F41712nXC-1f67jT1pG1hI1"]
  | .otherLetter =>
    ["g51F1W8144m62wPR44j1W11AZ121Z311O2A321G11UTv2B1OX1LMg1P7B5O17Gf1x1s131I17AGF48222M17113431",
     "G1D213E2A186422M17121212V411J3G9131M17121531I1F2N1B8222M17121531U213F1H116331432111232333C",
     "M1q18131N1G31Q31222U148131N1A1531U312F2H9131f121G15383O65I3O191127w1m112C6x1211151O111A129",
     "125N4W11_181a1R5p3h1K1G6443132734DC1n3fA142711142f1142X1142711142F1v1142Z2b1Gn3iJ2H1Q5h268",
     "7IDJEIED13Fq1e11Z2Z11r1752Y1115c2AVn1U25Bi14Qs1N9r1m5l1H8s1UD2Ai1Qa1f13AUn34161231wX14t_2u",
     "1ON9717171717171717dH1r114s2811w2415h11-2HW1m1GWGWk6W2rmK1tZ1Z2e18i84GA2Y21n1c2f51d3137131",
     "41NTq1Eo1-163112BSANPT7l1j1529A51f1N318KG16313o11132252111O23B71E626269717n4Z1TazACN4n1ae8",
     "kB2g3Z211A1D151112121i3X1hBIW22s1e1Cq351d4f3A1j12V36262623Z1C1Q1J121F2EY1x3bCT3n1l1W1DK186",
     "c1AU2a148W4k2Y3e18q1y2q1Ct99MA8u46211i112312NAN9VX2J12AMAQ6Qc1u162W21F4131Tg1T3TZ181SRs1AM",
     "AJDIk3f2t5a1c1411m9g162G312u1TA18Mg1Ik1LRNCr1v1221Dj1W1PQa1T1218Z131Cm1E4L111Z1I1PJ2_17111",
     "41F1A7l1c18222M17121531I1C5UA11211c111P111i1r1I4K3Um1K211u5l1f14a1m1K1x1h1D1d2Rb17v5i1p682",
     "128121OF111-282d1G111S1Ae171L1Bk1J1If2d6X1V91b1H1n1Um37121c1L1P6121W1E1Nf112a8JF11D1Y1y31l",
     "2wSc7a6io2X3FmX1H6Pxy35dIvr6UYt1vH7VHl2HUIm1p1L5JpDe1rCh251l5sc7f1W1X3p3jm8Z9F1T321E48iCae",
     "2h35D397Amp81rFj1X11XAUIi1aFRb7U21l6V1312172591X7714121F1b6xf141R1211211A14111161411111131",
     "2112111111111121124171414111A1H53151Hag4Wtf1W1-e42kq52nf7FkJYj2-GYl1hw45gf8"]
  | .nonspacingMark =>
    ["WOm3p85f8j111121211e2Bm1LG1b37262214Z11URx2Bw1991O4191315h13x19g1O1W1t1111484137A2T1w11448",
     "1K2Q122v1142422331U231B2v11451241K2M611w1121148172B2U1z11C1o1131t1113531472B2T1w11216152K2",
     "S2v124481K2T1e217311w2127C8Y3129B7f22R11111t1E15125B1a191c34161222P243G4D12261F1_L3oT3T2U2",
     "U2W2217812B91j1311r32Y11s33429163x6221w11171111286A21m1E1V2CK4m11151151e19C2W142213u111231",
     "13w1822u431D17416132c6W2mMD413C-_23j41W3W1gH4h32qkT14AW12m22m813141P251t42QID1c18PBk13m112",
     "422d11Z262222C181l11p1113225211g1281k712141mvJ1XNGGGjU1Y71r45cq131254e1341b52zH4X25z92j26c",
     "2Bn14x31s1Ff1122A3n142271z13a1518-11C2q19A421_2321126121z4138L2v1231b1735c26D11111E2r28231",
     "1N1q26114212k746212R2r282112g31112611b31112415Z8912W821141m442241W1Ae1624819623k1D12c61131",
     "1f671611o2M271212w3631121711e223111xA2B2q155111N1bd516FecBC33Wk25x17uW11_14n21ubJ2Xp4k12NW",
     "H3H827U4q43xz1t14o181E1M51Fmg171H271215a31W57tB1z14yF4-72p71217251wE7j37rzbOm7"]
  | .spacingMark =>
    ["Ze21t11238412o12w136222A1h11w13Y21w138112r12w11116222A1c32123313A1f13z14z12w1115221292S1E2",
     "w135313A1g12h2368I2gA2_11h52416122P2A327L22621A3up11U1X417812wA4234216W72w1111911286n41m11",
     "511512z11U14221y11231132m1882h51L1sv42p_T221u22o1Gk42l11m124223k3222O1j1111j312251j7212121",
     "1pWP111_31j1342p31O2x11m1392D1z233211g53V2w1214222391A2q237121141211b338231g33611421j73642",
     "1n338211j311261d311241b8391t7612412111k438441q21T2-11f613111d61E1g317121r654211-A2C1m12821",
     "1elG3an3t1e32phO266"]
  | .enclosingMark =>
    ["ea12qn51-m1413hiX13"]
  | .decimalNumber =>
    ["m1Acn1Ac4Ac6AyCAs3As3As3As3As3As3As3As3As3AW3As3Ac2As8Ac2Acw1Ac1Ai9AW4Ac5A6As5As2Ac4A6AckY",
     "1AcLAc1Ac6AMAs2AsCAsuKAci1Aca2A6AyOAW4Ay1Am4As8AsAAs3AsBAc3A6Ki2AcDAc3AsKAs2As7Ac2As1AcBAs",
     "kGAcf2As2Ac4AsGAsxNAqs2o1Wg2AcDAsFAt7ArQAsq4A"]
  | .letterNumber =>
    ["kt53lp2Z124-p31P9E3hrTAmoMr1iE181c45gX8l3byI3"]
  | .otherNumber =>
    ["o525123rf26uB6u33b47v67H9nDArX1KpZ1AWF1rq11366Ac6Gf11sMy1k2MsJUfh11qa14g4AU81FW1Ad1FmhT6nc",
     "Mj1X24H2rARa14qf18P7d19h25M6W522G2k1W29q12U3h25e38O8f17gA6WBV-4Ag14m37c4KxBKbg12kD9dRJpQLc",
     "yI7-ONfXPKCKi3Pkg59XTx11314i2j11FYUD"]
  | .connectorPunctuation =>
    ["_21_-72J1-kt12O3l71"]
  | .dashPunctuation =>
    ["j11yg11p11Xo31bW11fW26Xm3121V241S1-D1J1l31mip12b11A1f51Wp31-91"]
  | .openPunctuation =>
    ["e11o11V1-r3111-w11-h2131c11t11F1wJ111U1-X11111111111111m21W1111111111qC1111111111111111111",
     "11W2111X11bX11111111P1I1111111iD1111111113111111121Xfp11t61T11111111111111131H11111g51o11V",
     "13121"]
  | .closePunctuation =>
    ["f11p11V1zr3111-w11fj21t11F1wJ111U1-X11111111111111m21W1111111111qC111111111111111111111W21",
     "11X11bX11111111i11111111iD1111111113111111122-ep11v61T11111111111111131H11111g51p11V12121"]
  | .initialPunctuation =>
    ["h51ix712221P1ek31114121F131"]
  | .finalPunctuation =>
    ["x51zw7131S1ek31114121F131"]
  | .otherPunctuation =>
    ["X1313211112A232R1a2151E271-L181oE6f11s112121i12K212D113g24c31h1Ef73s1FV1b82A1i41u31v31cC1C",
     "1lB1w21A2e5F11m31g2542l36h51aJ9bO1y33d22z4313b1614v92u62W4716W52A7S3y34x15-12W28B1YQ288892",
     "4233B111Awa3412m31l42432129121122A51A24111D23iD3v11z51YWT2j83Z31A1p36yB4s22e1311n12l11X3DG",
     "2y34-32G2v71anK721M1K2243314736112r4313211112A232R1a1122wC3yK1m11-C1dN1d61V1m89c11m37Y27v2",
     "4pP1a45i14z57j3214-34m12l2441D113u26h31g9212o35A211e31w7Nf33SDi21Y43y71e83x41y28p2315z2At6",
     "1_25g12bK2g2Dl51mZ15yx22xpE2b41X2581eH3d94dA1ybJ1dl75px21-Q2"]
  | .mathSymbol =>
    ["h11G3z1111j1141b11V1-N1lG3xn61D1d13D3h41d1561a255241212171V22111Vi8W12w21UPe16rE191s18l31m",
     "A52VAGW8Z4M_14W12Y8m1L26y-p11uP113a51G3z1111Z4164Xj32Whm11m-11P1V1P1V1P1V1P1V1P1iv52-k29"]
  | .currencySymbol =>
    ["a11z34fd11x31oF2oF271r71d81bI1xi21ac2Y1sxX11ZkL1i31w41x6232s_74-um11mj21"]
  | .modifierSymbol =>
    ["-2111d21614131fG4CE57111Hr31E2Ye11qv5113B3D3D3D2ya42ZpTN92d32mU1E2cYKHxR111Y51tWz15"]
  | .otherSymbol =>
    ["c51214111nU1g82_32k61A1J2t71ZG1rB1Y4611a41l61f11dC3F11326K11111b48161254b62mNApM1oM1z4Y1XB",
     "A99Zi121412A1126611111141B2E11211w1295241212171V22111Vi884K272n21UPe16e2MBn2k2Mt5191s18l31",
     "u7i1i1W2W8WGm1L26d12g4b76bB2k1Q1v2Cs6QG41D2C1L262mA24AW1c191GVBU81FW1Ad1FWAWk6W2mqLt1XR4A2",
     "11zH3fgKGjBGW22s18j13aF13142D2v99v1H231D31l1j1wp12lI1eW18cZ21ra284HgwI451sgK1Zx3m7A33qD6NF",
     "GW3q3y1s7Ad12y153M27U4z1LY231w5t2fb1WGt14o181E12es11yw21X41nMi14a3CF2F1F1b1NX5u1TDi14972E6",
     "w4x75vM3H3D3w66C41FC4u18A6e18U2C42-1uA8E2D3B3v1114G2C4A7p41y2A1"]
  | .spaceSeparator =>
    ["W11_31_k51_h2Ba11l11Wz31"]
  | .lineSeparator =>
    ["eX81"]
  | .paragraphSeparator =>
    ["fX81"]
  | .control =>
    ["0W1_2X1"]
  | .format =>
    ["j51og16M1W61n11WC2m21hv31y_15Q5n151Alqt11v73Xc41F1Yx8GWZY14lc58cqhO1UW3"]
  | .surrogate =>
    ["WWs1WW2"]
  | .privateUse =>
    ["WWu1We6WuXS-__12-__1"]
  | .unassigned =>
    ["uR2647111K1jC1c12o1231t18R46Bk81y12b3Ex12n12F1S211B5Y15j718222M1711342922248142152P2316422",
     "M17121212211542233174117HA319131M1712152A131321F42C771318222M1712152922237342152IA21633143",
     "2111232333C4533142161EL5D131N1G291314721312242A7M131N1A152913147253142A13CD131p113164G2Q13",
     "1I3O191127314611186A23Cw14Tb1211151O111N2511171A24W1e21a14d11a11F1Db1c611512vB142711142f11",
     "42X1142711142F1v1142Z22W13Q6s2262zK3v27M9O9KCD1312C-22A6A6Q6v27h15c2AV1C4C413g125Bi14Q6B3-",
     "12X21T2B6A6E2k12CKj21c58y13F3-15h12B8h15sG262c126281111111V2r11F1E261J23191b31C2R1D3Y1EX1F",
     "i44wKMBLqu12-B5j111512u172EO97171717171717171-3Y1Q1v2Cs6Qm21s22d35h11-21s29m11jpS3t19yAKu5",
     "8z6Ky13A6u18c28C6q3BU3k21B4X11t19E2A2d3OSA6262697171y14-32A6azACN4n14kp82g3c17C55Q15111212",
     "1gKW1g16p11J14451d4211-5362626233717A52C1Q1J121F2EY1x3534j13u21D31l1k1Y4T3n1FS4a19U5h15U1b",
     "14Eg1-42A6a14a14e18q1BC1F17121B1F17123q1Ct99MA8O61g119b26211i112312N1e289m1J125X13R5Rc1u14",
     "K2o11258131T234A797W2W1d14C9s13T2R5Q74C7m2f2t1p1Dp17k18A6c13T82m6V1g11322G689X1k18g1MQc1SK",
     "N9k24a19a2A12P7A6r11I8d19W31KBI1l1-1711141F1B6x15A6418222M1712151A22232161572735BA11211c11",
     "A1121141A1282Ty215Ue28Ac5s12c1Y1b2BA6DJw16A6KSR2F4Nv5y1a3p2C82128121U122C9Ac282k12BRe28p2D",
     "f27As28u2Y1EA691j11EAT3W12M1Ef27121i13112198A66121b112167A6i14As7P7H1f13Tr21Fo1DxSc3l315Ba",
     "6io2Z3DsY1Axy35dIvr6w1cs1vH7V1A4n21A6U26Ac2AA171L5JmDw1c6x25P2Pi1h24v17HW25B79sc7f1W1X3p3z",
     "l8417121Z9F1T321E48iCae2h35D397A28yw3z73qD6NFHFk12N9q3y1s7Ad12Y6Lc2w3KCKCt29Pd4r21d2122122",
     "241C11171X21428171S141511371qA2a92-LF51FmY1V66r671H2712155-1X11m3j13E2A42WAVHw151mEg1s6h14",
     "1W6V1M82W7714121F1b62Gf1i24A42nOa2i2z1Y641R1211211A141111614111111312112111111111121124171",
     "414111A1H53151Hq12k8i14a3CF2F1F1b1Ak5u1TDi14972E6w4vU3H3D3w66C41FC4u18A6e18U2C42E9d1uA8E2D",
     "3B3v1114G2C4A7p41d3bW1Wtf1W1-e42kq52nf7FkJYj2-GYl1hw45gf8dyoL1UW3W4m7mm_1-__12-__12"]

def codes (c : Category) : CodeSet := .packed c.packedCodes

/-- Categories that have a name in common, with their names. -/
def groups : List (List String × List Category) :=
  [(["LC", "Cased_Letter"], [.uppercaseLetter, .lowercaseLetter, .titlecaseLetter]),
   (["L", "Letter"],
    [.uppercaseLetter, .lowercaseLetter, .titlecaseLetter, .modifierLetter, .otherLetter]),
   (["M", "Mark", "Combining_Mark"], [.nonspacingMark, .spacingMark, .enclosingMark]),
   (["N", "Number"], [.decimalNumber, .letterNumber, .otherNumber]),
   (["P", "Punctuation", "punct"],
    [.connectorPunctuation, .dashPunctuation, .openPunctuation, .closePunctuation,
     .initialPunctuation, .finalPunctuation, .otherPunctuation]),
   (["S", "Symbol"], [.mathSymbol, .currencySymbol, .modifierSymbol, .otherSymbol]),
   (["Z", "Separator"], [.spaceSeparator, .lineSeparator, .paragraphSeparator]),
   (["C", "Other"], [.control, .format, .surrogate, .privateUse, .unassigned])]

/-- The code points of the category, or of the group of categories, that a name stands for. -/
def codesNamed? (name : String) : Option CodeSet :=
  match all.find? (·.names.contains name) with
  | some c => some c.codes
  | none => (groups.find? (·.1.contains name)).map fun (_, cs) => .unionAll (cs.map codes)

end Category

/-- Code points that the newest version of the standard has added. -/
def newest : CodeSet :=
  .packed
    ["la21iU1_31ol3F2Crk11qs21tXV22111S1n-KGzD2s17nx2Qhh1389X12aZ38eIi14AsbKP2P-85XW68fe1MX3p3du",
     "F3zDNFHl-5V1M82u-31-44rA9xB4o1131v1141S141g81_vk16Yx5CYeLgc4"]

end CollectionRunner.Unicode
