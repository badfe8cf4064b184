import ScreenQuery.Text.Property
import ScreenQuery.Text.WidthTable

/-!
# Display width

* `charWidth?` is the number of terminal columns of one character; control characters have none.
* `width` is the number of columns of a text. It is read from right to left, because what a
  character adds can depend on what follows it: an emoji with its modifiers, joiners and selectors
  takes two columns as a whole, and some pairs of letters share one sign.
* A control character takes one column in a text, except that a carriage return and the line feed
  behind it take one together.

`width` and `charWidth?` are the two measures that `truncate` uses. Out of scope: the wider measure
for East Asian settings.
-/

namespace ScreenQuery.Text

/-- The table of widths. -/
def widthClasses : CharClasses := CharClasses.ofRuns widthRuns

/-- The columns of a character by itself, controls aside. -/
def columns (c : Char) : Nat :=
  if c.toNat < 0x7f then 1
  else match widthClasses.classOf c with
    | "0" => 0
    | "2" => 2
    | "3" => 3
    | _ => 1

/-- The columns of one character; a control character has no width. -/
def charWidth? (c : Char) : Option Nat := if isControl c then none else some (columns c)

/-! ## What follows a character -/

/-- Pairs of letters that share one sign when a joiner stands between them, or always. -/
inductive Ligature
  | hebrewLamed | bugineseYa | bugineseSign | tifinagh | tifinaghJoined | lisuTone | turkicI
  deriving DecidableEq

/-- What the characters to the right of a position allow the next one to join. -/
inductive Follower
  | other
  | lineFeed
  | skinTone
  | indicator
  | indicators
  | emoji
  | joinedEmoji
  | joinedKeycap
  | joinedIndicators (odd : Bool)
  | joinedTag (letters digits : Nat)
  | alef
  | struckAlef
  | coengLetter
  | ligature (pair : Ligature) (joined : Bool)
  deriving DecidableEq

/-- A selector of the text or the emoji form of the character before it. -/
inductive FormSelector
  | unset | textForm | emojiForm
  deriving DecidableEq

/-- The state of the measuring: the follower, and the selector that stands before it. -/
structure Lookahead where
  follower : Follower
  selector : FormSelector
  deriving DecidableEq

/-- Nothing on the right that matters. -/
def Lookahead.clear : Lookahead := ⟨.other, .unset⟩

/-- A follower without a selector. -/
def Lookahead.of (follower : Follower) : Lookahead := ⟨follower, .unset⟩

/-- Followers that selectors and other ignorable characters do not separate from the letter. -/
def Follower.seesThrough : Follower → Bool
  | alef | struckAlef | ligature .. => true
  | _ => false

/-- Followers that are joined to an emoji before them. -/
def Follower.isJoined : Follower → Bool
  | joinedEmoji | joinedKeycap => true
  | _ => false

/-- The state after a selector of the emoji form. -/
def Lookahead.selectEmoji (state : Lookahead) : Lookahead :=
  if state.follower.seesThrough || state.follower.isJoined then ⟨state.follower, .emojiForm⟩
  else ⟨.other, .emojiForm⟩

/-- The state after a selector of the text form. -/
def Lookahead.selectText (state : Lookahead) : Lookahead :=
  if state.follower.seesThrough then ⟨state.follower, .textForm⟩ else ⟨.other, .textForm⟩

/-! ## Classes of characters -/

/-- Characters with an emoji form. -/
def emojis : CharSet := property "Emoji"

/-- Characters whose usual form is the emoji form. -/
def emojiByDefault : CharSet := property "Emoji_Presentation"

/-- Characters that a skin tone can follow. -/
def skinToneBases : CharSet := property "Emoji_Modifier_Base"

/-- Characters without width that leave Arabic letters joined. -/
def transparent : CharSet := CharSet.ofRuns transparentRuns

/-- True when a character lies in one of some ranges of code points. -/
def inRanges (ranges : List (Nat × Nat)) (c : Char) : Bool :=
  ranges.any fun range => range.1 ≤ c.toNat && c.toNat ≤ range.2

/-- Ignorable characters inside a ligature. -/
def isTransparentInLigature : Char → Bool :=
  inRanges [(0x34f, 0x34f), (0x17b4, 0x17b5), (0x180b, 0x180d), (0x180f, 0x180f),
    (0x200d, 0x200d), (0xfe00, 0xfe0f), (0xe0100, 0xe01ef)]

/-- Arabic letters of the group Alef. -/
def isAlef : Char → Bool :=
  inRanges [(0x622, 0x623), (0x625, 0x625), (0x627, 0x627), (0x671, 0x673), (0x675, 0x675),
    (0x773, 0x774), (0x870, 0x882)]

/-- Arabic letters of the group Lam. -/
def isLam : Char → Bool :=
  inRanges [(0x644, 0x644), (0x6b5, 0x6b8), (0x76a, 0x76a), (0x8a6, 0x8a6), (0x8c7, 0x8c7)]

/-- Khmer letters that have a form below another letter. -/
def isCoengLetter : Char → Bool :=
  inRanges [(0x1780, 0x1782), (0x1784, 0x1787), (0x1789, 0x178c), (0x178e, 0x1793),
    (0x1795, 0x1798), (0x179b, 0x179d), (0x17a0, 0x17a0), (0x17a2, 0x17a2), (0x17a7, 0x17a7),
    (0x17ab, 0x17ac), (0x17af, 0x17af)]

/-- Tifinagh consonants. -/
def isTifinagh : Char → Bool := inRanges [(0x2d31, 0x2d65), (0x2d6f, 0x2d6f)]

/-- Regional indicators; two of them make a flag. -/
def isIndicator : Char → Bool := inRanges [(0x1f1e6, 0x1f1ff)]

/-- Skin tones. -/
def isSkinTone : Char → Bool := inRanges [(0x1f3fb, 0x1f3ff)]

/-- Tag letters. -/
def isTagLetter : Char → Bool := inRanges [(0xe0061, 0xe007a)]

/-- Tag digits. -/
def isTagDigit : Char → Bool := inRanges [(0xe0030, 0xe0039)]

/-- Characters beyond the basic plane that have both forms, the emoji form being the usual one. -/
def hasTextForm (c : Char) : Bool :=
  emojiByDefault.contains c && (c.toNat < 0x10000 ||
    inRanges [(0x1f004, 0x1f004), (0x1f30d, 0x1f30f), (0x1f315, 0x1f315), (0x1f31c, 0x1f31c),
      (0x1f378, 0x1f378), (0x1f393, 0x1f393), (0x1f3a7, 0x1f3a7), (0x1f3ac, 0x1f3ae),
      (0x1f3c2, 0x1f3c2), (0x1f3c4, 0x1f3c4), (0x1f3c6, 0x1f3c6), (0x1f3ca, 0x1f3ca),
      (0x1f3e0, 0x1f3e0), (0x1f3ed, 0x1f3ed), (0x1f408, 0x1f408), (0x1f415, 0x1f415),
      (0x1f41f, 0x1f41f), (0x1f426, 0x1f426), (0x1f442, 0x1f442), (0x1f446, 0x1f449),
      (0x1f44d, 0x1f44e), (0x1f453, 0x1f453), (0x1f46a, 0x1f46a), (0x1f47d, 0x1f47d),
      (0x1f4a3, 0x1f4a3), (0x1f4b0, 0x1f4b0), (0x1f4b3, 0x1f4b3), (0x1f4bb, 0x1f4bb),
      (0x1f4bf, 0x1f4bf), (0x1f4cb, 0x1f4cb), (0x1f4da, 0x1f4da), (0x1f4df, 0x1f4df),
      (0x1f4e4, 0x1f4e6), (0x1f4ea, 0x1f4ed), (0x1f4f7, 0x1f4f7), (0x1f4f9, 0x1f4fb),
      (0x1f508, 0x1f508), (0x1f50d, 0x1f50d), (0x1f512, 0x1f513), (0x1f550, 0x1f567),
      (0x1f610, 0x1f610), (0x1f687, 0x1f687), (0x1f68d, 0x1f68d), (0x1f691, 0x1f691),
      (0x1f694, 0x1f694), (0x1f698, 0x1f698), (0x1f6ad, 0x1f6ad), (0x1f6b2, 0x1f6b2),
      (0x1f6b9, 0x1f6ba), (0x1f6bc, 0x1f6bc)] c)

/-! ## The width of a text -/

/-- What a character allows the one before it to join, when nothing on its right matters. -/
def followerOf (c : Char) : Follower :=
  if isAlef c then .alef
  else if c = '\u05dc' then .ligature .hebrewLamed false
  else if c = '\u1a10' then .ligature .bugineseYa false
  else if isTifinagh c then .ligature .tifinagh false
  else if c = '\ua4fc' || c = '\ua4fd' then .ligature .lisuTone false
  else if c.toNat = 0x10c03 then .ligature .turkicI false
  else if isCoengLetter c then .coengLetter
  else if isIndicator c then .indicator
  else if isSkinTone c then .skinTone
  else if emojiByDefault.contains c then .emoji
  else .other

/-- A character measured without regard to its right. -/
def measureAlone (c : Char) : Int × Lookahead :=
  if c = '\ufe0f' then (0, ⟨.other, .emojiForm⟩)
  else if c = '\ufe0e' then (0, ⟨.other, .textForm⟩)
  else (columns c, .of (followerOf c))

/-- A character that joins what follows it: the columns it adds and the new state. -/
def join? (follower : Follower) (c : Char) : Option (Int × Lookahead) :=
  match follower with
  | .alef =>
    if isLam c then some (0, .clear)
    else if c = '\u0338' then some (0, .of .struckAlef)
    else if transparent.contains c then some (0, .of .alef)
    else none
  | .struckAlef => if isLam c then some (0, .clear) else none
  | .coengLetter => if c = '\u17d2' then some (-1, .clear) else none
  | .ligature .hebrewLamed true => if c = '\u05d0' then some (0, .clear) else none
  | .ligature .bugineseYa true =>
    if c = '\u1a17' then some (0, .of (.ligature .bugineseSign false)) else none
  | .ligature .bugineseSign _ => if c = '\u1a15' then some (0, .clear) else none
  | .ligature .tifinagh joined =>
    if c = '\u2d7f' then some (1, .of (.ligature .tifinaghJoined false))
    else if joined && isTifinagh c then some (0, .clear)
    else none
  | .ligature .tifinaghJoined _ => if isTifinagh c then some (-1, .clear) else none
  | .ligature .lisuTone _ =>
    if inRanges [(0xa4f8, 0xa4fb)] c then some (0, .clear) else none
  | .ligature .turkicI true => if c.toNat = 0x10c32 then some (0, .clear) else none
  | .skinTone =>
    if skinToneBases.contains c then some (0, .of .emoji)
    else if c = '\u200d' then some (0, .of .joinedEmoji)
    else none
  | .indicator => if isIndicator c then some (1, .of .indicators) else none
  | .indicators =>
    if isIndicator c then some (1, .of .indicators)
    else if c = '\u200d' then some (0, .of .joinedEmoji)
    else none
  | .emoji => if c = '\u200d' then some (0, .of .joinedEmoji) else none
  | .joinedEmoji =>
    if c = '\u20e3' then some (0, .of .joinedKeycap)
    else if isIndicator c then some (1, .of (.joinedIndicators true))
    else if isSkinTone c then some (0, .of .skinTone)
    else if c.toNat = 0xe007f then some (0, .of (.joinedTag 0 0))
    else if emojiByDefault.contains c then some (0, .of .emoji)
    else none
  | .joinedIndicators true =>
    if isIndicator c then some (-1, .of (.joinedIndicators false))
    else if c = '\u200d' then some (0, .of .joinedEmoji)
    else none
  | .joinedIndicators false =>
    if isIndicator c then some (3, .of (.joinedIndicators true))
    else if c = '\u200d' then some (0, .of .joinedEmoji)
    else none
  | .joinedTag letters digits =>
    if isTagLetter c && letters < 6 then some (0, .of (.joinedTag (letters + 1) digits))
    else if isTagDigit c && digits < 3 then some (0, .of (.joinedTag letters (digits + 1)))
    else if c.toNat = 0x1f3f4 && 3 ≤ letters + digits then some (0, .of .emoji)
    else none
  | _ => none

/-- A character beyond Latin, measured before a state without an emoji selector. -/
def measureJoining (c : Char) (state : Lookahead) : Int × Lookahead :=
  if state = .clear then measureAlone c
  else if c = '\ufe0f' then (0, state.selectEmoji)
  else if c = '\ufe0e' then (0, state.selectText)
  else if state.selector = .textForm && hasTextForm c then (1, .clear)
  else if state.follower.seesThrough && isTransparentInLigature c then
    match state.follower with
    | .ligature pair joined => (0, .of (.ligature pair (joined || c = '\u200d')))
    | follower => (0, .of follower)
  else (join? state.follower c).getD (measureAlone c)

/-- The columns that a character adds before a state, and the state before the character. -/
def measure (c : Char) (state : Lookahead) : Int × Lookahead :=
  if state.selector = .emojiForm && emojis.contains c then
    (if state.follower.isJoined then 0 else 2, .of .emoji)
  else if c.toNat ≤ 0xa0 then
    if c = '\n' then (1, .of .lineFeed)
    else if c = '\r' && state = .of .lineFeed then (0, .clear)
    else (1, .clear)
  else if state.selector = .emojiForm then
    measureJoining c (if state.follower.seesThrough || state.follower.isJoined
      then .of state.follower else .clear)
  else measureJoining c state

/-- The columns of a text. -/
def width (text : Text) : Nat :=
  (text.reverse.foldl (fun (sum, state) c =>
    let (columns, state) := measure c state
    (sum + columns, state)) ((0 : Int), Lookahead.clear)).1.toNat

end ScreenQuery.Text
