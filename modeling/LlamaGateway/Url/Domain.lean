import LlamaGateway.Text.NormalForm
import LlamaGateway.Url.DomainTable

/-!
# Domain names

A domain name is written in ASCII: letters in lower case, and labels with other characters in their
punycode form. A label that is already in this form has to stand for a mapped label that needs it.
Labels are checked by what they stand for: marks, joiners and writing directions keep to rules that
keep names apart.

In punycode the ASCII characters of a label come first, and digits tell what to insert where among
them, in the order of the code points. The insertions are counted in numbers whose digits adapt to
the size of those before.
-/

namespace LlamaGateway

namespace Url

namespace Punycode

/-- The digit of a value below 36. -/
def digit (value : Nat) : Char :=
  if value < 26 then Char.ofNat (0x61 + value) else Char.ofNat (0x16 + value)

/-- The part of a bias that large deltas add. -/
def scaleDelta : (steps : Nat) → (delta offset : Nat) → Nat
  | 0, delta, offset => offset + 36 * delta / (delta + 38)
  | steps + 1, delta, offset =>
    if 455 < delta then scaleDelta steps (delta / 35) (offset + 36)
    else offset + 36 * delta / (delta + 38)

/-- The bias after a delta. -/
def adapt (delta points : Nat) (isFirst : Bool) : Nat :=
  let delta := if isFirst then delta / 700 else delta / 2
  scaleDelta 16 (delta + delta / points) 0

/-- The value of the digit at a position from which a delta goes on. -/
def threshold (bias position : Nat) : Nat :=
  if position ≤ bias then 1 else if bias + 26 ≤ position then 26 else position - bias

/-- The digits of a delta. -/
def writeDelta (bias : Nat) : (steps : Nat) → (rest position : Nat) → List Char
  | 0, _, _ => []
  | steps + 1, rest, position =>
    let threshold := threshold bias position
    if rest < threshold then [digit rest]
    else
      digit (threshold + (rest - threshold) % (36 - threshold)) ::
        writeDelta bias steps ((rest - threshold) / (36 - threshold)) (position + 36)

/-- An encoder between code points. -/
structure Progress where
  /-- The delta so far. -/
  delta : Nat
  /-- The bias. -/
  bias : Nat
  /-- The number of code points that are written. -/
  written : Nat
  /-- The digits so far. -/
  digits : List Char

/-- The progress after the occurrences of one code point. -/
def writePoint (basic point : Nat) (progress : Progress) : List Nat → Progress
  | [] => progress
  | code :: rest =>
    if code < point then writePoint basic point { progress with delta := progress.delta + 1 } rest
    else if code = point then
      writePoint basic point
        { delta := 0
          bias := adapt progress.delta (progress.written + 1) (progress.written = basic)
          written := progress.written + 1
          digits := progress.digits ++ writeDelta progress.bias 16 progress.delta 36 } rest
    else writePoint basic point progress rest

/-- The progress after all code points from `point` on, smallest first. -/
def writePoints (basic : Nat) (codes : List Nat) :
    (steps : Nat) → (point : Nat) → Progress → Progress
  | 0, _, progress => progress
  | steps + 1, point, progress =>
    match (codes.filter (point ≤ ·)).min? with
    | none => progress
    | some next =>
      let delta := progress.delta + (next - point) * (progress.written + 1)
      let progress := writePoint basic next { progress with delta := delta } codes
      writePoints basic codes steps (next + 1) { progress with delta := progress.delta + 1 }

/-- The punycode form of a label. -/
def encode (label : List Char) : List Char :=
  let basic := label.filter fun c => c.toNat < 0x80
  let lead := if basic.isEmpty then [] else basic ++ ['-']
  let start : Progress := ⟨0, 72, basic.length, []⟩
  lead ++ (writePoints basic.length (label.map Char.toNat) label.length 0x80 start).digits

/-- The value of a digit. -/
def digitValue? (c : Char) : Option Nat :=
  if c.isDigit then some (c.toNat - 0x16)
  else if c.isLower then some (c.toNat - 0x61)
  else none

/-- The delta at the start of a text, and what follows it. -/
def readDelta? (bias position weight delta : Nat) : List Char → Option (Nat × List Char)
  | [] => none
  | c :: rest => do
    let value ← digitValue? c
    let delta := delta + value * weight
    let threshold := threshold bias position
    if value < threshold then return (delta, rest)
    else readDelta? bias (position + 36) (weight * (36 - threshold)) delta rest

/-- The code points of a label, given those before a text of deltas and the last one added. -/
def readPoints? : (steps : Nat) → (point index bias : Nat) → (isFirst : Bool) → List Nat →
    List Char → Option (List Nat)
  | _, _, _, _, _, codes, [] => some codes
  | 0, _, _, _, _, _, _ :: _ => none
  | steps + 1, point, index, bias, isFirst, codes, text => do
    let (delta, rest) ← readDelta? bias 36 1 0 text
    let count := codes.length + 1
    let point := point + (index + delta) / count
    let index := (index + delta) % count
    readPoints? steps point (index + 1) (adapt delta count isFirst) false
      (codes.take index ++ point :: codes.drop index) rest

/-- The label of a punycode form. A dash that ends the ASCII characters needs some before it. -/
def decode? (text : List Char) : Option (List Char) := do
  let tail := (text.reverse.takeWhile (· ≠ '-')).reverse
  let lead := text.take (text.length - tail.length)
  if lead = ['-'] then none
  else
    let codes ← readPoints? tail.length 0x80 0 72 true (lead.dropLast.map Char.toNat) tail
    if codes.all Nat.isValidChar then some (codes.map Char.ofNat) else none

end Punycode

/-- A capital letter of the ranges in which capital and small letters alternate. -/
def isAlternatingCapital (c : Char) : Bool :=
  alternatingRanges.any fun (first, last) =>
    first ≤ c.toNat && c.toNat ≤ last && (c.toNat - first) % 2 = 0

/-- What a character becomes in a domain name; none if it is refused. -/
def mapDomainChar? (c : Char) : Option (List Char) :=
  if c.toNat < 0x80 then some [c.toLower]
  else if isAlternatingCapital c then some [Char.ofNat (c.toNat + 1)]
  else
    match domainMapping.find? fun row => row.covers c with
    | some row => some (row.image c)
    | none =>
      if Text.inRanges ignoredRanges c then some []
      else if Text.inRanges plainRanges c then some [c]
      else none

/-- The characters of a domain name with each one mapped; none if one is refused. -/
def mapDomainChars? (name : List Char) : Option (List Char) :=
  (name.mapM mapDomainChar?).map List.flatten

/-- The mapped form of a domain name in normal form. -/
def mappedDomain? (name : List Char) : Option (List Char) :=
  (mapDomainChars? name).map Text.normalForm

/-- Mapping a domain name changes nothing. -/
def isMapped (name : List Char) : Bool :=
  mappedDomain? name = some name

/-- The code points of letters that join on both sides. -/
def dualJoiningRanges : List (Nat × Nat) :=
  [(0x620, 0x620), (0x626, 0x626), (0x628, 0x628), (0x62A, 0x62E), (0x633, 0x63F), (0x641, 0x647),
    (0x649, 0x64A), (0x66E, 0x66F), (0x679, 0x687), (0x69A, 0x6BF), (0x6C1, 0x6C2), (0x6CC, 0x6CC),
    (0x6CE, 0x6CE), (0x6D0, 0x6D1), (0x6FA, 0x6FC), (0x6FF, 0x6FF), (0x712, 0x714), (0x71A, 0x71D),
    (0x71F, 0x727), (0x729, 0x729), (0x72B, 0x72B), (0x72D, 0x72E), (0x74E, 0x758), (0x75C, 0x76A),
    (0x76D, 0x770), (0x772, 0x772), (0x775, 0x777), (0x77A, 0x77F), (0x7CA, 0x7EA), (0x841, 0x845),
    (0x848, 0x848), (0x84A, 0x853), (0x855, 0x855), (0x860, 0x860), (0x862, 0x865), (0x868, 0x868),
    (0x886, 0x886), (0x889, 0x88D), (0x88F, 0x88F), (0x8A0, 0x8A9), (0x8AF, 0x8B0), (0x8B3, 0x8B8),
    (0x8BA, 0x8C8), (0x1807, 0x1807), (0x1820, 0x1878), (0x1887, 0x18A8), (0x18AA, 0x18AA),
    (0xA840, 0xA871), (0x10AC0, 0x10AC4), (0x10AD3, 0x10AD6), (0x10AD8, 0x10ADC),
    (0x10ADE, 0x10AE0), (0x10AEB, 0x10AEE), (0x10B80, 0x10B80), (0x10B82, 0x10B82),
    (0x10B86, 0x10B88), (0x10B8A, 0x10B8B), (0x10B8D, 0x10B8D), (0x10B90, 0x10B90),
    (0x10BAD, 0x10BAE), (0x10D01, 0x10D21), (0x10D23, 0x10D23), (0x10EC3, 0x10EC4),
    (0x10EC6, 0x10ECB), (0x10F30, 0x10F32), (0x10F34, 0x10F44), (0x10F51, 0x10F53),
    (0x10F70, 0x10F73), (0x10F76, 0x10F81), (0x10FB0, 0x10FB0), (0x10FB2, 0x10FB3),
    (0x10FB8, 0x10FB8), (0x10FBB, 0x10FBC), (0x10FBE, 0x10FBF), (0x10FC1, 0x10FC1),
    (0x10FC4, 0x10FC4), (0x10FCA, 0x10FCA), (0x1E922, 0x1E943)]

/-- The code points of letters that join the letter before them only. -/
def rightJoiningRanges : List (Nat × Nat) :=
  [(0x622, 0x625), (0x627, 0x627), (0x629, 0x629), (0x62F, 0x632), (0x648, 0x648), (0x671, 0x673),
    (0x688, 0x699), (0x6C0, 0x6C0), (0x6C3, 0x6CB), (0x6CD, 0x6CD), (0x6CF, 0x6CF), (0x6D2, 0x6D3),
    (0x6D5, 0x6D5), (0x6EE, 0x6EF), (0x710, 0x710), (0x715, 0x719), (0x71E, 0x71E), (0x728, 0x728),
    (0x72A, 0x72A), (0x72C, 0x72C), (0x72F, 0x72F), (0x74D, 0x74D), (0x759, 0x75B), (0x76B, 0x76C),
    (0x771, 0x771), (0x773, 0x774), (0x778, 0x779), (0x840, 0x840), (0x846, 0x847), (0x849, 0x849),
    (0x854, 0x854), (0x856, 0x858), (0x867, 0x867), (0x869, 0x882), (0x88E, 0x88E), (0x8AA, 0x8AC),
    (0x8AE, 0x8AE), (0x8B1, 0x8B2), (0x8B9, 0x8B9), (0x10AC5, 0x10AC5), (0x10AC7, 0x10AC7),
    (0x10AC9, 0x10ACA), (0x10ACE, 0x10AD2), (0x10ADD, 0x10ADD), (0x10AE1, 0x10AE1),
    (0x10AE4, 0x10AE4), (0x10AEF, 0x10AEF), (0x10B81, 0x10B81), (0x10B83, 0x10B85),
    (0x10B89, 0x10B89), (0x10B8C, 0x10B8C), (0x10B8E, 0x10B8F), (0x10B91, 0x10B91),
    (0x10BA9, 0x10BAC), (0x10D22, 0x10D22), (0x10EC2, 0x10EC2), (0x10F33, 0x10F33),
    (0x10F54, 0x10F54), (0x10F74, 0x10F75), (0x10FB4, 0x10FB6), (0x10FB9, 0x10FBA),
    (0x10FBD, 0x10FBD), (0x10FC2, 0x10FC3), (0x10FC9, 0x10FC9)]

/-- The code points of letters that join the letter after them only. -/
def leftJoiningRanges : List (Nat × Nat) :=
  [(0xA872, 0xA872), (0x10ACD, 0x10ACD), (0x10AD7, 0x10AD7), (0x10D00, 0x10D00), (0x10FCB, 0x10FCB)]

/-- The character joins the letter after it. -/
def joinsNext (c : Char) : Bool :=
  Text.inRanges dualJoiningRanges c || Text.inRanges leftJoiningRanges c

/-- The character joins the letter before it. -/
def joinsPrevious (c : Char) : Bool :=
  Text.inRanges dualJoiningRanges c || Text.inRanges rightJoiningRanges c

/-- The character leaves its neighbours joined. -/
def isTransparent (c : Char) : Bool :=
  Text.isNonspacingMark c || c.toNat = 0x1E94B

/-- The character that keeps its neighbours apart. -/
def isNonJoiner (c : Char) : Bool :=
  c.toNat = 0x200C

/-- One of the two joiners. -/
def isJoiner (c : Char) : Bool :=
  isNonJoiner c || c.toNat = 0x200D

/-- A joiner may stand between two texts, of which the one before it is given from its end. -/
def joinerFits (joiner : Char) (before after : List Char) : Bool :=
  let followsVirama := before.head?.any fun c => Text.combiningClass c = Text.viramaClass
  let parts := ((before.dropWhile isTransparent).head?.any joinsNext) &&
    (after.dropWhile isTransparent).head?.any joinsPrevious
  followsVirama || (isNonJoiner joiner && parts)

/-- Each joiner of a text may stand where it does, given the text before from its end. -/
def joinersFit (before : List Char) : List Char → Bool
  | [] => true
  | c :: rest => (!isJoiner c || joinerFits c before rest) && joinersFit (c :: before) rest

/-- The part that a character plays in the order of a line. -/
inductive Direction where
  /-- Written from left to right. -/
  | left
  /-- Written from right to left. -/
  | right
  /-- A digit of the Arabic number forms. -/
  | arabicNumber
  /-- A digit of the European number forms. -/
  | europeanNumber
  /-- A mark that goes with the character before it. -/
  | nonspacing
  /-- A sign without a direction of its own. -/
  | neutral
deriving DecidableEq, Repr

/-- The code points that are written from right to left. -/
def rightRanges : List (Nat × Nat) :=
  [(0x5BE, 0x5BE), (0x5C0, 0x5C0), (0x5C3, 0x5C3), (0x5C6, 0x5C6), (0x5D0, 0x5F4), (0x608, 0x608),
    (0x60B, 0x60B), (0x60D, 0x60D), (0x61B, 0x64A), (0x66D, 0x66F), (0x671, 0x6D5), (0x6E5, 0x6E6),
    (0x6EE, 0x6EF), (0x6FA, 0x710), (0x712, 0x72F), (0x74D, 0x7A5), (0x7B1, 0x7EA), (0x7F4, 0x7F5),
    (0x7FA, 0x7FA), (0x7FE, 0x815), (0x81A, 0x81A), (0x824, 0x824), (0x828, 0x828), (0x830, 0x858),
    (0x85E, 0x88F), (0x8A0, 0x8C9), (0xFBB2, 0xFBC2), (0xFE73, 0xFE73), (0x10800, 0x1091B),
    (0x10920, 0x10A00), (0x10A10, 0x10A35), (0x10A40, 0x10AE4), (0x10AEB, 0x10B35),
    (0x10B40, 0x10D23), (0x10D4A, 0x10D4F), (0x10D6F, 0x10D8F), (0x10E80, 0x10EA9),
    (0x10EAD, 0x10ECB), (0x10F00, 0x10F45), (0x10F51, 0x10F81), (0x10F86, 0x10FF6),
    (0x1E800, 0x1E8CF), (0x1E922, 0x1E943), (0x1E94B, 0x1ED3D)]

/-- The code points of Arabic digits. -/
def arabicNumberRanges : List (Nat × Nat) :=
  [(0x660, 0x669), (0x66B, 0x66C), (0x10D30, 0x10D49), (0x10E60, 0x10E7E)]

/-- The code points of European digits. -/
def europeanNumberRanges : List (Nat × Nat) :=
  [(0x30, 0x39), (0x6F0, 0x6F9), (0x102E1, 0x102FB)]

/-- The code points of signs without a direction. -/
def neutralRanges : List (Nat × Nat) :=
  [(0x0, 0x2F), (0x3A, 0x60), (0x7B, 0xD7), (0xF7, 0xF7), (0x2B9, 0x2BA), (0x2C2, 0x2CF),
    (0x2D2, 0x2ED), (0x2EF, 0x2FF), (0x375, 0x375), (0x3F6, 0x3F6), (0x58A, 0x58F), (0x606, 0x607),
    (0x609, 0x60A), (0x60C, 0x60C), (0x60E, 0x60F), (0x66A, 0x66A), (0x6DE, 0x6DE), (0x6E9, 0x6E9),
    (0x7F6, 0x7F9), (0x9F2, 0x9F3), (0x9FB, 0x9FB), (0xAF1, 0xAF1), (0xBF3, 0xBFA), (0xC78, 0xC7E),
    (0xE3F, 0xE3F), (0xF3A, 0xF3D), (0x1390, 0x1399), (0x1400, 0x1400), (0x169B, 0x169C),
    (0x17DB, 0x17DB), (0x17F0, 0x180A), (0x1940, 0x1945), (0x19DE, 0x19FF), (0x200C, 0x20C4),
    (0x2104, 0x214D), (0x218A, 0x2335), (0x237B, 0x2394), (0x2396, 0x26AB), (0x26AD, 0x27FF),
    (0x2900, 0x2BFF), (0x2CE5, 0x2CEA), (0x2CF9, 0x2CFF), (0x2E00, 0x3004), (0x3008, 0x3020),
    (0x3030, 0x3030), (0x3037, 0x3037), (0x303D, 0x303F), (0x30A0, 0x30A0), (0x30FB, 0x30FB),
    (0x31C0, 0x31E5), (0x4DC0, 0x4DFF), (0xA490, 0xA4C6), (0xA60D, 0xA60F), (0xA673, 0xA673),
    (0xA67E, 0xA67F), (0xA700, 0xA721), (0xA788, 0xA788), (0xA828, 0xA82B), (0xA838, 0xA839),
    (0xA874, 0xA877), (0xAB6A, 0xAB6B), (0xFBC3, 0xFDFF), (0xFE45, 0xFE46), (0x10101, 0x10101),
    (0x10140, 0x1018C), (0x10190, 0x101A0), (0x1091F, 0x1091F), (0x10B39, 0x10B3F),
    (0x10D6E, 0x10D6E), (0x10ED0, 0x10ED8), (0x11052, 0x11065), (0x11660, 0x1166C),
    (0x11FD5, 0x11FF1), (0x16FE2, 0x16FE2), (0x1CC00, 0x1CEF0), (0x1D1E9, 0x1D241),
    (0x1D245, 0x1D245), (0x1D300, 0x1D356), (0x1E2FF, 0x1E2FF), (0x1EEF0, 0x1F12F),
    (0x1F16D, 0x1F16F), (0x1F1AD, 0x1F1AD), (0x1F260, 0x1FBFA)]

/-- The code points of marks that are written from left to right on their own. -/
def leftMarks : List Nat := [0xCBF, 0xCC6, 0x11A07, 0x11A08, 0x11C3F]

/-- The direction of a character that may stand in a domain name. -/
def direction (c : Char) : Direction :=
  if Text.inRanges rightRanges c then .right
  else if Text.inRanges arabicNumberRanges c then .arabicNumber
  else if Text.inRanges europeanNumberRanges c then .europeanNumber
  else if Text.inRanges neutralRanges c then .neutral
  else if Text.isNonspacingMark c && !leftMarks.contains c.toNat then .nonspacing
  else .left

/-- A character that is written from right to left, or a digit that goes with such letters. -/
def isRightToLeft (c : Char) : Bool :=
  direction c = .right || direction c = .arabicNumber

/-- The direction of the last character of a label that is no mark. -/
def lastDirection (directions : List Direction) : Option Direction :=
  (directions.reverse.dropWhile (· = .nonspacing)).head?

/-- The label keeps to one direction. The digits of a label from right to left are of one kind. -/
def keepsDirection (label : List Char) : Bool :=
  let directions := label.map direction
  let endsWith (accepted : List Direction) : Bool :=
    (lastDirection directions).any accepted.contains
  match directions.head? with
  | none => true
  | some .left =>
    endsWith [.left, .europeanNumber] && !directions.contains .right &&
      !directions.contains .arabicNumber
  | some .right =>
    endsWith [.right, .arabicNumber, .europeanNumber] && !directions.contains .left &&
      !(directions.contains .arabicNumber && directions.contains .europeanNumber)
  | some _ => false

/-- The text is made up of ASCII characters. -/
def isAscii (text : List Char) : Bool :=
  text.all fun c => c.toNat < 0x80

/-- The start of a label in punycode form. -/
def punycodeMark : List Char := "xn--".toList

/-- The longest label with characters beyond ASCII. -/
def longestLabel : Nat := 1000

/-- The longest punycode form of a label. -/
def longestPunycode : Nat := 2000

/-- The label that a mapped label stands for; none if it is too long or if its punycode form stands
for none. -/
def meantLabel? (label : List Char) : Option (List Char) :=
  match Text.dropPrefix? punycodeMark label with
  | some body =>
    if !isAscii body || longestPunycode < body.length then none
    else (Punycode.decode? body).filter fun meant => !isAscii meant && isMapped meant
  | none => if isAscii label || label.length ≤ longestLabel then some label else none

/-- A label may be part of a domain name: it starts with no mark, and its joiners stand where they
may. -/
def isLabel (label : List Char) : Bool :=
  isAscii label || (!label.head?.any Text.isCombiningMark && joinersFit [] label)

/-- The ASCII form of a label. -/
def labelToAscii (label : List Char) : List Char :=
  if isAscii label then label else punycodeMark ++ Punycode.encode label

/-- Characters that no domain name may hold. -/
def isForbiddenInDomain (c : Char) : Bool :=
  c.toNat ≤ 0x20 || c.toNat = 0x7F ||
    ['%', '#', '/', ':', '<', '>', '?', '@', '[', '\\', ']', '^', '|'].contains c

/-- A name without characters beyond ASCII, in which no label is in punycode form. -/
def isPlainName (name : List Char) : Bool :=
  isAscii name &&
    (Text.splitOn '.' name).all fun label => (Text.dropPrefix? punycodeMark label).isNone

/-- The ASCII form of a mapped name whose labels have a meaning of their own. -/
def meantName? (name : List Char) : Option (List Char) := do
  let labels ← (Text.splitOn '.' name).mapM meantLabel?
  let ordered := !labels.any (·.any isRightToLeft) || labels.all keepsDirection
  if ordered && labels.all isLabel then some (Text.joinWith ['.'] (labels.map labelToAscii))
  else none

/-- The ASCII form of a domain name. A name of ASCII characters needs no tables. -/
def domainToAscii? (name : List Char) : Option (List Char) := do
  let lower := name.map Char.toLower
  let ascii ← if isPlainName lower then some lower else (mappedDomain? name).bind meantName?
  if ascii.any isForbiddenInDomain then none else some ascii

end Url

end LlamaGateway
