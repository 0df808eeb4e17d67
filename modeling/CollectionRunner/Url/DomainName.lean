import CollectionRunner.Unicode.Case
import CollectionRunner.Unicode.Category
import CollectionRunner.Unicode.Direction
import CollectionRunner.Unicode.Joining
import CollectionRunner.Unicode.Normalization
import CollectionRunner.Url.Punycode

namespace CollectionRunner.Url.DomainName

open Unicode

/-- Code points that a name is written without. -/
def ignored : CodeSet :=
  .packed
    ["j51XL1lm32po12r25x_11q2556qd41xap1Gl71W51_dl14lc58byhOm7"]

/-- Code points that stand in no name. -/
def disallowed : CodeSet :=
  .packed
    ["W4W1uM2647111K1jC1c12o1231t18R46HM1W61m12x12b3Ex12n12F1S211B5W17h21X518222M171134292224814",
     "2152P2316422M17121212211542233174117HA319131M1712152A131321F42C771318222M17121529222373421",
     "52IA216331432111232333C4533142161EL5D131N1G291314721312242A7M131N1A152913147253142A13CD131",
     "p113164G2Q131I3O191127314611186A23Cw14Tb1211151O111N2511171A24W1e21a14d11a11F1Db1c611512vB",
     "142711142f1142X1142711142F1v1142Z22W13Q6s2262WK1S3v27M9O9KCD1312C-22A6A6Q6v27h15c2AV1C4C41",
     "3g125Bi14Q6B3-12X21T2B6A6E2k12CKj21c58y13F3-15h12B8h15sG262c126281111111V2r11F1E261J23191E",
     "2K317s1582R1D3Y1EX1Fi44wKMBLe1Kus12-B5j111512u172EO97171717171717171-3Y1Q1v2Cs6g1W21s22d35",
     "h11-21s2Al11YD141G1qbS3t19yAKu58z6Ky13A6u18c28C6q3BU3k21B4X11t19E2A2d3OSA6262697171y14-32A",
     "6azACN4n1ae8kB2g3c17C55Q151112121gKW1Y1167G1X12J14451d4211-5362626233717HC1Q1J121F2EY1x353",
     "4j13u21D31l1k1Y4T3n1FS4a19U5h15U1b14Eg1-42A6a14a14e18q1BC1F17121B1F17123q1Ct99MA8O61g119b2",
     "6211i112312N1e289m1J125X13R5Rc1u14K2o11258131T234A797W2W1d14C9s13T2R5Q74C7m2f2t1p1Dp17k18A",
     "6c13T82m6V1g11322G689X1k18g1MQc1SKN9k24a19-115DP7A6r11I8d19W31KBI1l1-1711141F1B6x15A641822",
     "2M1712151A22232161572735BA11211c11A1121141A1282Ty215Ue28Ac5s12c1Y1b2BA6DJw16A6KSR2F4Nv5y1a",
     "3p2C82128121U122C9Ac282k12BRe28p2Df27As28u2Y1EA691j11EAT3W12M1Ef27121i13112198A66121b11216",
     "7A6i14As7P7H1f13Tr21Fo1DxSc3l315Ba6io2Z3DmX1GMAxy35dIvr6w1cs1vH7V1A4n21A6U26Ac2AA171L5JmDw",
     "1c6x25P2Pi1h24v17HW25B79sc7f1W1X3p3zl8417121Z9F1T321E48iCae2h35D397A28yw3z73qD6NFHFk12N9q3",
     "y1s7Ad12Y6Lc2w3KCKCt29Pd4r21d2122122241C11171X21428171S141511371qA2a92-LF51FmY1V66r671H271",
     "2155-1X11m3j13E2A42WAVHw151mEg1s6h141W6V1M82W7714121F1b62Gf1i24A42nOa2i2z1Y641R1211211A141",
     "111614111111312112111111111121124171414111A1H53151Hq12k8i14a3CF2F1F1b1Bj5u1TDi14972E6w4vU3",
     "H3D3w66C41FC4u18A6e18U2C42E9d1uA8E2D3B3v1114G2C4A7p41d3bW1Wtf1W1-e42kq52nf7FkJYj2-GYl1hw45",
     "gf8capLm7mm_5"]

/-- The code points that stand for one in the form of a name that is looked up. -/
def mapCode (n : Nat) : List Nat :=
  if n < 128 then [if 65 ≤ n && n ≤ 90 then n + 32 else n]
  else if ignored.contains n then []
  else if n = 0x3002 || n = 0xFF61 then [0x2E]
  else if n = 0x1E9E then [0xDF]
  else if n = 0xDF || n = 0x3C2 || n = 0x200C || n = 0x200D then [n]
  else NormalForm.nfkc.apply ((NormalForm.nfkc.apply [n]).flatMap Case.fold)

/-- Characters of ASCII that stand in no name. -/
def isDenied (n : Nat) : Bool :=
  n ≤ 0x20 || n = 0x7F || (n < 128 && "%%#/:<>?@[\\]^|".toList.contains (Char.ofNat n))

def isMark (n : Nat) : Bool :=
  128 ≤ n && [Category.nonspacingMark, .spacingMark, .enclosingMark].any (·.codes.contains n)

/-- Whether letters join across a place, given the text before it, read backwards, and after it. -/
def joinsAt (before after : List Nat) : Bool :=
  let beside (codes : List Nat) (kind : CodeSet) : Bool :=
    match codes.dropWhile Joining.transparent.contains with
    | n :: _ => Joining.withBoth.contains n || kind.contains n
    | [] => false
  beside before Joining.withNext && beside after Joining.withPrevious

/-- Whether each joiner of a label stands where it makes a difference. -/
def joinersAreNeeded (before : List Nat) : List Nat → Bool
  | [] => true
  | n :: after =>
    let virama : Bool := match before with
      | m :: _ => Normalization.combiningClass m = 9
      | [] => false
    (if n = 0x200D then virama
      else if n = 0x200C then virama || joinsAt before after
      else true) && joinersAreNeeded (n :: before) after

/-- Whether a label that was written in other characters than ASCII is one of a name. -/
def isLabel (codes : List Nat) : Bool :=
  (match codes with
    | n :: _ => ! isMark n
    | [] => true) && joinersAreNeeded [] codes

def isRightToLeft (n : Nat) : Bool :=
  128 ≤ n && (Direction.rightToLeft.contains n || Direction.arabicNumber.contains n)

/-- Whether the parts of a label can be told apart where names run in both directions. -/
def directionsAgree (codes : List Nat) : Bool :=
  let rtl := Direction.rightToLeft.contains
  let arabic := Direction.arabicNumber.contains
  let european := Direction.europeanNumber.contains
  let plain (n : Nat) : Bool := Direction.mark.contains n || Direction.neutral.contains n
  let ltr (n : Nat) : Bool := ! (rtl n || arabic n || european n || plain n)
  let last := (codes.reverse.dropWhile Direction.mark.contains).head?
  match codes with
  | [] => true
  | first :: _ =>
    if rtl first then
      codes.all (! ltr ·) && ! (codes.any european && codes.any arabic) &&
        (last.map fun n => rtl n || european n || arabic n).getD false
    else if ltr first then
      codes.all (fun n => ! (rtl n || arabic n)) &&
        (last.map fun n => ltr n || european n).getD false
    else false

/-- The code points between full stops. -/
def labels (codes : List Nat) : List (List Nat) := go [] codes
where
  go (label : List Nat) : List Nat → List (List Nat)
    | [] => [label.reverse]
    | n :: rest => if n = 0x2E then label.reverse :: go [] rest else go (n :: label) rest

/-- What labels in ASCII start with that stand for others. -/
def marker : List Nat := "xn--".toList.map Char.toNat

/-- The label that one stands for, if it is one of a name: one that is marked as encoded must be the
encoding of another one. -/
def decodedLabel? (label : List Nat) : Option (List Nat) :=
  if marker.isPrefixOf label then
    if label.any (128 ≤ ·) || 2000 < label.length then none
    else do
      let codes ← Punycode.decode? ((label.drop 4).map Char.ofNat)
      let isKept (n : Nat) : Bool :=
        ! isDenied n && ! disallowed.contains n && n ≠ 0x2E && mapCode n == [n]
      if codes.any (128 ≤ ·) && codes.all isKept && NormalForm.nfc.apply codes == codes &&
          ! marker.isPrefixOf codes && isLabel codes then
        return codes
      else none
  else if label.all (· < 128) then some label
  else if isLabel label && label.length ≤ 1000 then some label
  else none

/-- A label in ASCII, given what it stands for. -/
def asciiLabel (label decoded : List Nat) : List Char :=
  if label.all (· < 128) then label.map Char.ofNat
  else marker.map Char.ofNat ++ Punycode.encode (decoded.map Char.ofNat)

/-- A name in ASCII. -/
def toAscii? (name : String) : Option (List Char) := do
  let codes := name.toList.map Char.toNat
  if codes.any disallowed.contains then none
  let codes := codes.flatMap mapCode
  let codes := if codes.all (· < 128) then codes else NormalForm.nfc.apply codes
  if codes.any isDenied then none
  let labels := labels codes
  let decoded ← labels.mapM decodedLabel?
  if decoded.any (·.any isRightToLeft) && ! decoded.all directionsAgree then none
  return ['.'].intercalate (List.zipWith asciiLabel labels decoded)

end CollectionRunner.Url.DomainName
