import OpenApiGate.Json.Writer
import OpenApiGate.Proofs.Spellings

/-!
# Reading what was written

Members and containers are read back part by part, and with them every value
whose integers are short, whose keys differ and whose containers are not nested
too deeply.  Only doubles may change: those without digits are written as null.
-/

namespace OpenApiGate

namespace Json

open CodePoint (is_eq_false_of_test)

/-! ## Members and containers -/

/-- A text of blanks only. -/
def IsMargin (margin : Text) : Prop :=
  ∀ point ∈ margin, isSpace point = true

theorem isMargin_of_all {margin : Text} (blank : margin.all isSpace = true) : IsMargin margin :=
  List.all_eq_true.mp blank

theorem IsMargin.append
    {first second : Text}
    (before : IsMargin first)
    (after : IsMargin second) :
    IsMargin (first ++ second) :=
  List.forall_mem_append.mpr ⟨before, after⟩

theorem skipSpaces_of_isMargin
    {margin : Text}
    (blank : IsMargin margin)
    (rest : Text) :
    skipSpaces (margin ++ rest) = skipSpaces rest :=
  List.dropWhile_append_of_pos blank

theorem Spells.skipSpaces
    {α : Type}
    {reader : Reader α}
    {text : Text}
    {part : α}
    (spells : Spells reader text part)
    (rest : Text) :
    skipSpaces (text ++ rest) = text ++ rest := by
  rcases spells.starts with ⟨first, more, rfl, starts⟩
  exact skipSpaces_of_not_isSpace starts.notSpace

/-- A member is read back as its key and its value. -/
theorem spells_member
    {reader : Reader Value}
    {text : Text}
    {value : Value}
    (spells : Spells reader text value)
    (key : Text) :
    Spells (readMember reader) (stringLiteral key ++ ": " ++ text) (key, value) where
  starts := ⟨CodePoint.ofChar '"', _, rfl, ⟨rfl, rfl, rfl, by decide⟩⟩
  reads := by
    intro rest ends
    have quote : (CodePoint.ofChar '"').is '"' = true := rfl
    have colon : (CodePoint.ofChar ':').is ':' = true := rfl
    have keyRead :=
      readString_flatMap
        (CodePoint.ofChar '"' ::
          (key.flatMap escapedPoint ++ CodePoint.ofChar '"' :: CodePoint.ofChar ':' ::
            CodePoint.ofChar ' ' :: (text ++ rest)))
        key [] (CodePoint.ofChar ':' :: CodePoint.ofChar ' ' :: (text ++ rest))
    have colonOn :
        skipSpaces (CodePoint.ofChar ':' :: CodePoint.ofChar ' ' :: (text ++ rest)) =
          CodePoint.ofChar ':' :: CodePoint.ofChar ' ' :: (text ++ rest) :=
      skipSpaces_of_not_isSpace rfl
    have textOn : skipSpaces (CodePoint.ofChar ' ' :: (text ++ rest)) = text ++ rest :=
      spells.skipSpaces rest
    have layout :
        stringLiteral key ++ ": " ++ text ++ rest =
          CodePoint.ofChar '"' ::
            (key.flatMap escapedPoint ++ CodePoint.ofChar '"' :: CodePoint.ofChar ':' ::
              CodePoint.ofChar ' ' :: (text ++ rest)) := by
      simp [stringLiteral, Text.ofString]
    rw [layout]
    simp only [readMember, quote, keyRead, colonOn, colon, textOn, spells.reads rest ends, if_true]
    rfl

/-- No number goes on with a blank. -/
theorem continuesNumber_of_isSpace
    {point : CodePoint}
    (blank : isSpace point = true) :
    continuesNumber point = false := by
  simp only [continuesNumber, Bool.or_eq_false_iff]
  refine ⟨⟨⟨?_, ?_⟩, ?_⟩, ?_⟩
  case refine_1 =>
    rw [Bool.eq_false_iff]
    intro digit
    rw [isSpace_of_isDigit digit] at blank
    cases blank
  all_goals exact is_eq_false_of_test blank rfl

/-- The characters that close containers. -/
inductive IsClosing : Char → Prop where
  | array : IsClosing ']'
  | object : IsClosing '\x7d'

namespace IsClosing

variable {closing : Char}

theorem notSpace (isClosing : IsClosing closing) :
    isSpace (CodePoint.ofChar closing) = false := by
  cases isClosing <;> rfl

theorem endsNumber (isClosing : IsClosing closing) :
    continuesNumber (CodePoint.ofChar closing) = false := by
  cases isClosing <;> rfl

theorem notComma (isClosing : IsClosing closing) :
    (CodePoint.ofChar ',').is closing = false := by
  cases isClosing <;> rfl

theorem is_self (closing : Char) : (CodePoint.ofChar closing).is closing = true :=
  beq_self_eq_true _

/-- No part starts with a closing mark. -/
theorem not_starts
    {first : CodePoint}
    (isClosing : IsClosing closing)
    (starts : Starts first) :
    first.is closing = false := by
  cases isClosing with
  | array => exact starts.notArrayEnd
  | object => exact starts.notObjectEnd

end IsClosing

section Containers

variable {α : Type} {reader : Reader α} {inner outer : Text} {closing : Char}

/--
The text of a container behind its first part: a comma and the margin `inner`
in front of each further part, and the margin `outer` in front of the closing
mark.
-/
def partsTail (inner outer : Text) (closing : Char) : List Text → Text
  | [] => outer ++ [CodePoint.ofChar closing]
  | part :: more =>
    CodePoint.ofChar ',' :: (inner ++ (part ++ partsTail inner outer closing more))

theorem ends_partsTail
    (inner : Text)
    (outerBlank : IsMargin outer)
    (isClosing : IsClosing closing)
    (texts : List Text)
    (rest : Text) :
    Ends (partsTail inner outer closing texts ++ rest) := by
  cases texts with
  | cons second more => exact ends_cons rfl _
  | nil =>
      cases outer with
      | nil => exact ends_cons isClosing.endsNumber rest
      | cons point more =>
          have blank : isSpace point = true := outerBlank point List.mem_cons_self
          exact ends_cons (continuesNumber_of_isSpace blank) _

theorem length_lt_partsTail
    (inner outer : Text)
    (closing : Char)
    (texts : List Text) :
    texts.length < (partsTail inner outer closing texts).length := by
  induction texts with
  | nil => simp [partsTail]
  | cons second more ih =>
      simp only [partsTail, List.length_cons, List.length_append]
      omega

/-- Parts are read back in order from the first one on. -/
theorem readParts_partsTail
    (isClosing : IsClosing closing)
    (innerBlank : IsMargin inner)
    (outerBlank : IsMargin outer)
    {texts : List Text}
    {parts : List α}
    (spelled : List.Forall₂ (Spells reader) texts parts)
    {first : Text}
    {part : α}
    (firstSpelled : Spells reader first part)
    {bound : Text}
    (bounded : texts.length < bound.length)
    (reversed : List α)
    (rest : Text) :
    readParts closing reader bound reversed
        (first ++ (partsTail inner outer closing texts ++ rest)) =
      .ok (reversed.reverse ++ part :: parts, rest) := by
  have isComma : (CodePoint.ofChar ',').is ',' = true := rfl
  have commaNotSpace : isSpace (CodePoint.ofChar ',') = false := rfl
  -- On the parts behind the first one: each round takes a part off the tail and one code
  -- point off the bound, so that the bound stays longer than what is left.
  induction spelled generalizing first part bound reversed with
  | nil =>
      rcases bound with _ | ⟨_, shorter⟩
      · cases bounded
      · have read := firstSpelled.reads _ (ends_partsTail inner outerBlank isClosing [] rest)
        have skipped :
            skipSpaces (partsTail inner outer closing [] ++ rest) =
              CodePoint.ofChar closing :: rest := by
          rw [partsTail, List.append_assoc, skipSpaces_of_isMargin outerBlank]
          exact skipSpaces_of_not_isSpace isClosing.notSpace
        rw [readParts]
        simp only [read, skipped, IsClosing.is_self, if_true, List.reverse_cons]
  | @cons second secondPart more moreParts secondSpelled moreSpelled ih =>
      rcases bound with _ | ⟨_, shorter⟩
      · cases bounded
      · have read :=
          firstSpelled.reads _ (ends_partsTail inner outerBlank isClosing (second :: more) rest)
        have skipped :
            skipSpaces (inner ++ (second ++ partsTail inner outer closing more) ++ rest) =
              second ++ (partsTail inner outer closing more ++ rest) := by
          rw [List.append_assoc, skipSpaces_of_isMargin innerBlank, List.append_assoc]
          exact secondSpelled.skipSpaces _
        have shorterBounded : more.length < shorter.length := Nat.lt_of_succ_lt_succ bounded
        rw [readParts]
        simp only [read]
        rw [partsTail, List.cons_append, skipSpaces_of_not_isSpace commaNotSpace]
        simp only [isClosing.notComma, isComma, skipped, Bool.false_eq_true, if_true, if_false]
        rw [ih secondSpelled shorterBounded]
        simp

theorem joined_append_closing
    (margin outer : Text)
    (closing : Char)
    (first : Text)
    (more : List Text) :
    "\n" ++ Text.joined ",\n" ((first :: more).map fun part => margin ++ part) ++
        (outer ++ [CodePoint.ofChar closing]) =
      "\n" ++ margin ++ (first ++ partsTail ("\n" ++ margin) outer closing more) := by
  induction more generalizing first with
  | nil => simp [Text.joined, partsTail]
  | cons second more ih =>
      have comma : Text.ofString ",\n" = CodePoint.ofChar ',' :: Text.ofString "\n" := rfl
      have joined :
          Text.joined ",\n" ((first :: second :: more).map fun part => margin ++ part) =
            margin ++ first ++ ",\n" ++
              Text.joined ",\n" ((second :: more).map fun part => margin ++ part) :=
        List.intercalate_cons_cons
      rw [joined, partsTail, ← ih second, comma]
      simp only [List.append_assoc, List.cons_append]

/-- A container with parts: a margin in front of each part and of the closing mark. -/
theorem containerText_cons
    (opening : CodePoint)
    (closing : Char)
    (indent : Nat)
    (first : Text)
    (more : List Text) :
    ∃ inner outer, IsMargin inner ∧ IsMargin outer ∧
      containerText [opening] [CodePoint.ofChar closing] indent (first :: more) =
        opening :: (inner ++ (first ++ partsTail inner outer closing more)) := by
  have lineBreak : IsMargin "\n" := isMargin_of_all rfl
  have blank : IsMargin (List.replicate indent (CodePoint.ofChar ' ')) := by
    intro point member
    rw [List.eq_of_mem_replicate member]
    rfl
  refine
    ⟨"\n" ++ (List.replicate indent (CodePoint.ofChar ' ') ++ "  "),
      "\n" ++ List.replicate indent (CodePoint.ofChar ' '),
      lineBreak.append (blank.append (isMargin_of_all rfl)), lineBreak.append blank, ?_⟩
  rw [← joined_append_closing]
  simp [containerText, List.append_assoc]

/-- A container is read back as its parts in order. -/
theorem readContainer_containerText
    (isClosing : IsClosing closing)
    {texts : List Text}
    {parts : List α}
    (spelled : List.Forall₂ (Spells reader) texts parts)
    (opening : CodePoint)
    (indent : Nat) :
    ∃ body,
      containerText [opening] [CodePoint.ofChar closing] indent texts = opening :: body ∧
        ∀ rest, readContainer closing reader (body ++ rest) = .ok (parts, rest) := by
  cases spelled with
  | nil =>
      refine ⟨[CodePoint.ofChar closing], rfl, fun rest => ?_⟩
      show readContainer closing reader (CodePoint.ofChar closing :: rest) = _
      rw [readContainer, skipSpaces_of_not_isSpace isClosing.notSpace]
      simp only [IsClosing.is_self, if_true]
  | @cons first part more moreParts firstSpelled moreSpelled =>
      rcases containerText_cons opening closing indent first more with
        ⟨inner, outer, innerBlank, outerBlank, layout⟩
      refine ⟨_, layout, fun rest => ?_⟩
      have skipped :
          skipSpaces (inner ++ (first ++ partsTail inner outer closing more) ++ rest) =
            first ++ (partsTail inner outer closing more ++ rest) := by
        rw [List.append_assoc, skipSpaces_of_isMargin innerBlank, List.append_assoc]
        exact firstSpelled.skipSpaces _
      have bounded :
          more.length < (first ++ (partsTail inner outer closing more ++ rest)).length := by
        have tail := length_lt_partsTail inner outer closing more
        simp only [List.length_append]
        omega
      have read :=
        readParts_partsTail isClosing innerBlank outerBlank moreSpelled firstSpelled bounded [] rest
      rcases firstSpelled.starts with ⟨point, others, rfl, starts⟩
      -- What is skipped to is the first part, not the mark that would end an empty container.
      have goesOn : point.is closing = false := isClosing.not_starts starts
      rw [readContainer, skipped]
      simp only [List.cons_append, goesOn, Bool.false_eq_true, if_false]
      exact read

end Containers

/-! ## Values -/

theorem spells_array
    {depth : Nat}
    {texts : List Text}
    {items : List Value}
    (spelled : List.Forall₂ (Spells (readValue depth)) texts items)
    (indent : Nat) :
    Spells (readValue (depth + 1)) (containerText "[" "]" indent texts) (.array items) := by
  rcases readContainer_containerText .array spelled '[' indent with ⟨body, layout, reads⟩
  change containerText "[" "]" indent texts = _ at layout
  rw [layout]
  constructor
  · exact ⟨CodePoint.ofChar '[', body, rfl, ⟨rfl, rfl, rfl, by decide⟩⟩
  · intro rest _
    have opens : (CodePoint.ofChar '[').is '[' = true := rfl
    rw [List.cons_append, readValue]
    simp only [opens, reads rest, if_true]

theorem Members.prepend_of_new
    {members : Members}
    {key : Text}
    (new : key ∉ members.map Prod.fst)
    (value : Value) :
    Members.prepend members key value = (key, value) :: members := by
  have absent : (members.any fun member => member.1 == key) = false := by
    rw [List.any_eq_false]
    intro member within same
    apply new
    rw [← eq_of_beq same]
    exact List.mem_map_of_mem within
  rw [prepend, absent]
  rfl

theorem Members.foldl_prepend
    {pairs members : Members}
    (distinct : (pairs.map Prod.fst).Nodup)
    (new : ∀ key ∈ pairs.map Prod.fst, key ∉ members.map Prod.fst) :
    pairs.foldl (fun members pair => Members.prepend members pair.1 pair.2) members =
      pairs.reverse ++ members := by
  induction pairs generalizing members with
  | nil => rfl
  | cons pair more ih =>
      rcases pair with ⟨key, value⟩
      rw [List.map_cons, List.nodup_cons] at distinct
      have first := prepend_of_new (new key List.mem_cons_self) value
      have later :
          ∀ other ∈ more.map Prod.fst, other ∉ ((key, value) :: members).map Prod.fst := by
        intro other within occurs
        rcases List.mem_cons.mp occurs with same | before
        · exact distinct.1 (same ▸ within)
        · exact new other (List.mem_cons_of_mem key within) before
      rw [List.foldl_cons, first, ih distinct.2 later, List.reverse_cons, List.append_assoc]
      rfl

/-- Members whose keys differ are kept as they are. -/
theorem Members.ofPairs_of_nodup
    {pairs : Members}
    (distinct : (pairs.map Prod.fst).Nodup) :
    Members.ofPairs pairs = pairs := by
  rw [ofPairs, foldl_prepend distinct fun _ _ => List.not_mem_nil, List.append_nil,
    List.reverse_reverse]

theorem spells_object
    {depth : Nat}
    {texts : List Text}
    {members : Members}
    (spelled : List.Forall₂ (Spells (readMember (readValue depth))) texts members)
    (distinct : (members.map Prod.fst).Nodup)
    (indent : Nat) :
    Spells (readValue (depth + 1)) (containerText "\x7b" "\x7d" indent texts)
      (.object members) := by
  rcases readContainer_containerText .object spelled '\x7b' indent with
    ⟨body, layout, reads⟩
  change containerText "\x7b" "\x7d" indent texts = _ at layout
  rw [layout]
  constructor
  · exact ⟨CodePoint.ofChar '\x7b', body, rfl, ⟨rfl, rfl, rfl, by decide⟩⟩
  · intro rest _
    have noArray : (CodePoint.ofChar '\x7b').is '[' = false := rfl
    have opens : (CodePoint.ofChar '\x7b').is '\x7b' = true := rfl
    rw [List.cons_append, readValue]
    simp only [noArray, opens, reads rest, Members.ofPairs_of_nodup distinct, Bool.false_eq_true,
      if_true, if_false]

/-- The value that the text of a double is read back as. -/
def doubleReadBack (double : Float) : Value :=
  match Decimal.shortestForm double with
  | .word _ => .null
  | .numeral negative numeral =>
    .double ((Decimal.reportLayout.literal numeral).double negative)

theorem doubleReadBack_of_isFinite
    {double : Float}
    (finite : double.isFinite = true) :
    ∃ number, doubleReadBack double = .double number := by
  rcases Decimal.shortestForm_of_isFinite finite with ⟨negative, numeral, form, _⟩
  simp only [doubleReadBack, form]
  exact ⟨_, rfl⟩

theorem doubleReadBack_of_not_isFinite
    {double : Float}
    (infinite : double.isFinite = false) :
    doubleReadBack double = .null := by
  rcases Decimal.shortestForm_of_not_isFinite infinite with ⟨text, form⟩
  simp only [doubleReadBack, form]

theorem spells_double (double : Float) (depth : Nat) :
    Spells (readValue depth) (doubleLiteral double) (doubleReadBack double) := by
  cases finite : double.isFinite with
  | false =>
      rcases Decimal.shortestForm_of_not_isFinite finite with ⟨text, form⟩
      simp only [doubleLiteral, doubleReadBack, form]
      exact spells_null depth
  | true =>
      rcases Decimal.shortestForm_of_isFinite finite with ⟨negative, numeral, form, proper⟩
      have spells :=
        spells_literal (Decimal.Layout.proper_literal Decimal.reportLayout proper) negative depth
      simp only [doubleLiteral, doubleReadBack, form]
      rw [← Decimal.Layout.render_eq_text rfl proper] at spells
      cases negative <;> exact spells

namespace Value

mutual

/-- The value that the text of a value is read back as: doubles may lose what has no digits. -/
def readBack : Value → Value
  | .double value => doubleReadBack value
  | .array items => .array (readBackItems items)
  | .object members => .object (readBackMembers members)
  | .null => .null
  | .bool value => .bool value
  | .integer value => .integer value
  | .string text => .string text

/-- The items that the items of an array are read back as. -/
def readBackItems : List Value → List Value
  | [] => []
  | item :: rest => item.readBack :: readBackItems rest

/-- The members that the members of an object are read back as. -/
def readBackMembers : List (Text × Value) → List (Text × Value)
  | [] => []
  | (key, value) :: rest => (key, value.readBack) :: readBackMembers rest

end

/--
A value that the decoder accepts the text of: its containers are nested at most
`depth` deep, its integers are short and the keys of its objects differ.
-/
inductive Legible : Nat → Value → Prop where
  | null (depth : Nat) : Legible depth .null
  | bool (depth : Nat) (value : Bool) : Legible depth (.bool value)
  | integer
      (depth : Nat)
      {value : Int}
      (short : (Decimal.digitsOf value.natAbs).length ≤ Decimal.integerDigitLimit) :
      Legible depth (.integer value)
  | double (depth : Nat) (value : Float) : Legible depth (.double value)
  | string (depth : Nat) (text : Text) : Legible depth (.string text)
  | array
      {depth : Nat}
      {items : List Value}
      (legible : ∀ item ∈ items, Legible depth item) :
      Legible (depth + 1) (.array items)
  | object
      {depth : Nat}
      {members : Members}
      (legible : ∀ member ∈ members, Legible depth member.2)
      (distinct : (members.map Prod.fst).Nodup) :
      Legible (depth + 1) (.object members)

variable {depth indent : Nat}

theorem spells_items
    {items : List Value}
    (spelled : ∀ item ∈ items, Spells (readValue depth) (item.written indent) item.readBack) :
    List.Forall₂ (Spells (readValue depth))
      (writtenItems indent items) (readBackItems items) := by
  induction items with
  | nil => exact List.Forall₂.nil
  | cons item more ih =>
      constructor
      · exact spelled item List.mem_cons_self
      · exact ih fun other member => spelled other (List.mem_cons_of_mem item member)

theorem spells_members
    {members : Members}
    (spelled : ∀ member ∈ members,
      Spells (readValue depth) (member.2.written indent) member.2.readBack) :
    List.Forall₂ (Spells (readMember (readValue depth)))
      (writtenMembers indent members) (readBackMembers members) := by
  induction members with
  | nil => exact List.Forall₂.nil
  | cons member more ih =>
      constructor
      · exact spells_member (spelled member List.mem_cons_self) member.1
      · exact ih fun other within => spelled other (List.mem_cons_of_mem member within)

theorem keys_readBackMembers (members : Members) :
    (readBackMembers members).map Prod.fst = members.map Prod.fst := by
  induction members with
  | nil => rfl
  | cons member more ih => exact congrArg (member.1 :: ·) ih

/-- A legible value is read back from its text. -/
theorem Legible.spells
    {value : Value}
    (legible : Legible depth value)
    (indent : Nat) :
    Spells (readValue depth) (value.written indent) value.readBack := by
  induction legible generalizing indent with
  | null depth => exact spells_null depth
  | bool depth value =>
      cases value with
      | false => exact spells_false depth
      | true => exact spells_true depth
  | integer depth short => exact spells_integer short depth
  | double depth value => exact spells_double value depth
  | string depth text => exact spells_string text depth
  | array _ ih =>
      apply spells_array
      exact spells_items fun item member => ih item member (indent + 2)
  | object _ distinct ih =>
      apply spells_object
      · exact spells_members fun member within => ih member within (indent + 2)
      · rw [keys_readBackMembers]
        exact distinct

end Value

/-- A legible value is decoded from its text. -/
theorem decode_written
    {value : Value}
    (legible : Value.Legible nestingLimit value) :
    decode (value.written 0) = .ok value.readBack := by
  have spells := legible.spells 0
  have reads := spells.reads [] ends_nil
  have skipped := spells.skipSpaces []
  rw [List.append_nil] at reads skipped
  have noMark : ((value.written 0).head?.any fun point => point.value == 0xFEFF) = false := by
    rcases spells.starts with ⟨first, more, layout, starts⟩
    have ascii := starts.ascii
    simp only [layout, List.head?_cons, Option.any_some, beq_eq_false_iff_ne]
    omega
  have read : readDocument (value.written 0) = .ok value.readBack := by
    unfold readDocument
    simp only [noMark, skipped, reads, Bool.false_eq_true, if_false]
    rfl
  simp only [decode, read]

end Json

end OpenApiGate
