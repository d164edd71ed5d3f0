import BearerAuth.Text.Marks

/-!
# Canonical composition

A letter with marks can be spelled in several ways: with the marks after it, in any order that
keeps marks of one class in theirs, or as one character with fewer marks after it. The composed
form takes every composite apart, sorts the marks and joins each letter with what can be joined
to it. The table holds the composites that a domain name may hold; syllables of Hangul are
joined by arithmetic.
-/
namespace BearerAuth.Text

/-- After each joining character: the letters it joins, each before the composite. -/
def compositesByMark : List (Nat × String) :=
  [(0x0300, "aàeèiìnǹoòuùwẁyỳâầêềôồüǜăằēḕōṑơờưừαὰεὲηὴιὶοὸυὺωὼϊῒϋῢеѐиѝἀἂἁἃἐἒἑἓἠἢἡἣἰἲἱἳὀὂὁὃὐὒὑὓὠὢ"),
   (0x0300, "ὡὣ"),
   (0x0301, "aácćeégǵiíkḱlĺmḿnńoópṕrŕsśuúwẃyýzźâấåǻæǽçḉêếïḯôốõṍøǿüǘăắēḗōṓũṹơớưứαάεέηήιίοόυύωώϊΐ"),
   (0x0301, "ϋΰгѓкќἀἄἁἅἐἔἑἕἠἤἡἥἰἴἱἵὀὄὁὅὐὔὑὕὠὤὡὥ"), (0x0302, "aâcĉeêgĝhĥiîjĵoôsŝuûwŵyŷzẑạậẹệọộ"),
   (0x0303, "aãeẽiĩnñoõuũvṽyỹâẫêễôỗăẵơỡưữ"),
   (0x0304, "aāeēgḡiīoōuūyȳäǟæǣõȭöȫüǖǫǭȧǡȯȱαᾱιῑυῡиӣуӯḷḹṛṝ"),
   (0x0306, "aăeĕgğiĭoŏuŭȩḝαᾰιῐυῠаӑеӗжӂийуўạặ"),
   (0x0307, "aȧbḃcċdḋeėfḟgġhḣmṁnṅoȯpṗrṙsṡtṫwẇxẋyẏzżśṥšṧṣṩ𐗒𐗉𐗚𐗤"),
   (0x0308, "aäeëhḧiïoötẗuüwẅxẍyÿõṏūṻιϊυϋаӓеёжӝзӟиӥоӧуӱчӵыӹэӭіїәӛөӫ"),
   (0x0309, "aảeẻiỉoỏuủyỷâẩêểôổăẳơởưử"), (0x030A, "aåuůwẘyẙ"), (0x030B, "oőuűуӳ"),
   (0x030C, "aǎcčdďeěgǧhȟiǐjǰkǩlľnňoǒrřsštťuǔzžüǚʒǯ"), (0x030F, "aȁeȅiȉoȍrȑuȕѵѷ"),
   (0x0311, "aȃeȇiȋoȏrȓuȗ"), (0x0313, "αἀεἐηἠιἰοὀρῤυὐωὠ"), (0x0314, "αἁεἑηἡιἱοὁρῥυὑωὡ"),
   (0x031B, "oơuư"), (0x0323, "aạbḅdḍeẹhḥiịkḳlḷmṃnṇoọrṛsṣtṭuụvṿwẉyỵzẓơợưự"), (0x0324, "uṳ"),
   (0x0325, "aḁ"), (0x0326, "sștț"), (0x0327, "cçdḑeȩgģhḩkķlļnņrŗsştţ"), (0x0328, "aąeęiįoǫuų"),
   (0x032D, "dḓeḙlḽnṋtṱuṷ"), (0x032E, "hḫ"), (0x0330, "eḛiḭuṵ"), (0x0331, "bḇdḏhẖkḵlḻnṉrṟtṯzẕ"),
   (0x0338, "<≮=≠>≯←↚→↛↔↮⇐⇍⇒⇏⇔⇎∃∄∈∉∋∌∣∤∥∦∼≁≃≄≅≇≈≉≍≭≡≢≤≰≥≱≲≴≳≵≶≸≷≹≺⊀≻⊁≼⋠≽⋡⊂⊄⊃⊅⊆⊈⊇⊉⊑⋢⊒⋣⊢⊬⊨⊭⊩⊮⊫⊯⊲⋪"),
   (0x0338, "⊳⋫⊴⋬⊵⋭"), (0x0342, "αᾶηῆιῖυῦωῶϊῗϋῧἀἆἁἇἠἦἡἧἰἶἱἷὐὖὑὗὠὦὡὧ"), (0x0653, "\u0627\u0622"),
   (0x0654, "\u0627\u0623\u0648\u0624\u064a\u0626\u06c1\u06c2\u06d2\u06d3\u06d5\u06c0"),
   (0x0655, "\u0627\u0625"), (0x093C, "नऩरऱळऴ"), (0x09BE, "\u09c7\u09cb"),
   (0x09D7, "\u09c7\u09cc"), (0x0B3E, "\u0b47\u0b4b"), (0x0B56, "\u0b47\u0b48"),
   (0x0B57, "\u0b47\u0b4c"), (0x0BBE, "\u0bc6\u0bca\u0bc7\u0bcb"), (0x0BD7, "ஒஔ\u0bc6\u0bcc"),
   (0x0C56, "\u0c46\u0c48"), (0x0CC2, "\u0cc6\u0cca"),
   (0x0CD5, "\u0cbf\u0cc0\u0cc6\u0cc7\u0cca\u0ccb"), (0x0CD6, "\u0cc6\u0cc8"),
   (0x0D3E, "\u0d46\u0d4a\u0d47\u0d4b"), (0x0D57, "\u0d46\u0d4c"),
   (0x0DCA, "\u0dd9\u0dda\u0ddc\u0ddd"), (0x0DCF, "\u0dd9\u0ddc"), (0x0DDF, "\u0dd9\u0dde"),
   (0x102E, "ဥဦ"),
   (0x1B35, "ᬅᬆᬇᬈᬉᬊᬋᬌᬍᬎᬑᬒ\u1b3a\u1b3b\u1b3c\u1b3d\u1b3e\u1b40\u1b3f\u1b41\u1b42\u1b43"),
   (0x3099, "うゔかがきぎくぐけげこごさざしじすずせぜそぞただちぢつづてでとどはばひびふぶへべほぼゝゞウヴカガキギクグケゲコゴサザシジスズセゼソゾタダチヂツヅテデトドハバヒビフブ"),
   (0x3099, "ヘベホボワヷヰヸヱヹヲヺヽヾ"), (0x309A, "はぱひぴふぷへぺほぽハパヒピフプヘペホポ"), (0x110BA, "𑂙𑂚𑂛𑂜𑂥𑂫"),
   (0x11127, "𑄱𑄮𑄲𑄯"), (0x1133E, "𑍇𑍋"), (0x11357, "𑍇𑍌"), (0x113B8, "𑏅𑎸"), (0x113BB, "𑎄𑎅"),
   (0x113C2, "𑎋𑎎𑏅𑏂"), (0x113C9, "𑎂𑎃𑎐𑎑𑏅𑏉"), (0x114B0, "𑒹𑒼"), (0x114BA, "𑒹𑒻"), (0x114BD, "𑒹𑒾"),
   (0x115AF, "𑖸𑖺𑖹𑖻"), (0x11930, "𑤵𑤸"), (0x1611E, "𖄡𖄞"), (0x1611F, "𖄦𖄡𖄦𖄢𖄧𖄩𖄤"), (0x16120, "𖄨𖄡𖄨"),
   (0x16129, "𖄡𖄩"), (0x16D67, "𖵣𖵪𖵨𖵩𖵪")]

/-- A letter, what is joined to it, and the composite. -/
structure Composite where
  letter : Char
  mark : Char
  joined : Char
  deriving DecidableEq, Repr

def compositesOf (mark : Char) : List Char → List Composite
  | letter :: joined :: rest => ⟨letter, mark, joined⟩ :: compositesOf mark rest
  | _ => []

def composites : List Composite :=
  compositesByMark.flatMap fun entry => compositesOf (Char.ofNat entry.1) entry.2.toList

namespace Hangul

def firstSyllable : Nat := 0xAC00

def firstLead : Nat := 0x1100

def firstVowel : Nat := 0x1161

/-- One before the first tail: a syllable without a tail counts as its own first form. -/
def beforeTails : Nat := 0x11A7

def leadCount : Nat := 19

def vowelCount : Nat := 21

def tailCount : Nat := 28

def syllableCount : Nat := leadCount * vowelCount * tailCount

/-- Join lead and vowel, or a syllable without a tail and a tail. -/
def join? (first second : Char) : Option Char :=
  let lead := first.toNat - firstLead
  let vowel := second.toNat - firstVowel
  let syllable := first.toNat - firstSyllable
  let tail := second.toNat - beforeTails
  if firstLead ≤ first.toNat ∧ lead < leadCount ∧
      firstVowel ≤ second.toNat ∧ vowel < vowelCount then
    some (Char.ofNat (firstSyllable + (lead * vowelCount + vowel) * tailCount))
  else if firstSyllable ≤ first.toNat ∧ syllable < syllableCount ∧ syllable % tailCount = 0 ∧
      beforeTails < second.toNat ∧ tail < tailCount then
    some (Char.ofNat (first.toNat + tail))
  else none

/-- Lead, vowel and tail of a syllable. -/
def parts? (c : Char) : Option (List Char) :=
  let syllable := c.toNat - firstSyllable
  if firstSyllable ≤ c.toNat ∧ syllable < syllableCount then
    let lead := Char.ofNat (firstLead + syllable / (vowelCount * tailCount))
    let vowel := Char.ofNat (firstVowel + syllable / tailCount % vowelCount)
    let tail := Char.ofNat (beforeTails + syllable % tailCount)
    some (if syllable % tailCount = 0 then [lead, vowel] else [lead, vowel, tail])
  else none

end Hangul

/-- The one character for a letter and what follows it. -/
def join? (first second : Char) : Option Char :=
  (Hangul.join? first second).or
    ((composites.find? fun entry => entry.letter = first ∧ entry.mark = second).map (·.joined))

/-- Take a composite apart once. -/
def part (c : Char) : List Char :=
  match Hangul.parts? c, composites.find? (·.joined = c) with
  | some parts, _ => parts
  | none, some entry => [entry.letter, entry.mark]
  | none, none => [c]

/-- Composites are made of a letter and at most two marks. -/
def decompose (text : List Char) : List Char := (text.flatMap part).flatMap part

/-- Put a character before the marks that do not belong before it. -/
def insertMark (c : Char) : List Char → List Char
  | [] => [c]
  | next :: rest =>
    if combiningClass next ≠ 0 ∧ combiningClass next < combiningClass c then
      next :: insertMark c rest
    else c :: next :: rest

/-- Sort each run of marks by class; marks of one class stay in order. -/
def sortMarks (text : List Char) : List Char := text.foldr insertMark []

/-- Join to a letter what can be joined. `kept` holds the marks that stay behind it, last
first, and a mark is joined only when none of them is of its class or a higher one. -/
def composeFrom (letter : Char) (kept : List Char) : List Char → List Char
  | [] => letter :: kept.reverse
  | c :: rest =>
    let isFree := kept.head?.all fun last => combiningClass last < combiningClass c
    match if isFree then join? letter c else none with
    | some joined => composeFrom joined kept rest
    | none =>
      if combiningClass c = 0 then letter :: kept.reverse ++ composeFrom c [] rest
      else composeFrom letter (c :: kept) rest

/-- Marks before the first letter stay as they are. -/
def joinMarks : List Char → List Char
  | [] => []
  | c :: rest => if combiningClass c = 0 then composeFrom c [] rest else c :: joinMarks rest

/-- The composed form of a text. -/
def compose (text : List Char) : List Char := joinMarks (sortMarks (decompose text))

end BearerAuth.Text
