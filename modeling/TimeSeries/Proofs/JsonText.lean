import TimeSeries.Json.Reader
import TimeSeries.Json.Writer

/-! JSON documents are read back from their texts, as long as their numbers are integers and their
strings are texts. -/

namespace TimeSeries.Json

/-! ### Strings -/

def Piece.Means (piece : Piece) (c : Char) : Prop :=
  piece = .char c ∨ piece = .unit c.toNat ∧ c.toNat < 32

theorem escaped_cases (c : Char) :
    (∃ letter, letter ≠ 'u' ∧ shortEscape? letter = some c ∧ escaped c = ['\\', letter]) ∨
      (c.toNat < 32 ∧
        escaped c = ['\\', 'u', '0', '0', hexDigit (c.toNat / 16), hexDigit c.toNat]) ∨
      (32 ≤ c.toNat ∧ c ≠ '"' ∧ c ≠ '\\' ∧ escaped c = [c]) := by
  unfold escaped
  split
  · exact .inl ⟨'"', by decide, rfl, rfl⟩
  · exact .inl ⟨'\\', by decide, rfl, rfl⟩
  · exact .inl ⟨'b', by decide, rfl, rfl⟩
  · exact .inl ⟨'f', by decide, rfl, rfl⟩
  · exact .inl ⟨'n', by decide, rfl, rfl⟩
  · exact .inl ⟨'r', by decide, rfl, rfl⟩
  · exact .inl ⟨'t', by decide, rfl, rfl⟩
  next quote backslash _ _ _ _ _ =>
    by_cases control : c.toNat < 32
    · exact .inr (.inl ⟨control, if_pos control⟩)
    · exact .inr (.inr ⟨Nat.le_of_not_lt control, quote, backslash, if_neg control⟩)

theorem hexValue?_hexDigit {number : Nat} (short : number < 16) :
    hexValue? (some (hexDigit number)) = some number := by
  have each : ∀ digit : Fin 16, hexValue? (some (hexDigit digit)) = some digit.val := by
    decide
  exact each ⟨number, short⟩

theorem hexDigit_mod (number : Nat) : hexDigit (number % 16) = hexDigit number := by
  unfold hexDigit
  rw [Nat.mod_mod]

theorem unit?_control {code : Nat} (control : code < 32) :
    unit? (some '0') (some '0') (some (hexDigit (code / 16))) (some (hexDigit code)) =
      some code := by
  have zero : hexValue? (some '0') = some 0 := rfl
  have high : hexValue? (some (hexDigit (code / 16))) = some (code / 16) :=
    hexValue?_hexDigit (by omega)
  have low : hexValue? (some (hexDigit code)) = some (code % 16) := by
    rw [← hexDigit_mod]
    exact hexValue?_hexDigit (Nat.mod_lt _ (by decide))
  unfold unit?
  rw [zero, high, low]
  exact congrArg some (by omega)

theorem scanString_escaped (c : Char) : ∃ piece : Piece, piece.Means c ∧ ∀ rest,
    scanString ((escaped c).map some ++ rest) =
      (scanString rest).map fun (pieces, rest) => (piece :: pieces, rest) := by
  rcases escaped_cases c with ⟨letter, other, short, written⟩ | ⟨control, written⟩ |
    ⟨plain, quote, backslash, written⟩
  · refine ⟨.char c, .inl rfl, fun rest => ?_⟩
    rw [written]
    simp only [List.map_cons, List.map_nil, List.cons_append, List.nil_append]
    rw [scanString, short]
    · cases scanString rest <;> rfl
    · simp [other]
  · refine ⟨.unit c.toNat, .inr ⟨rfl, control⟩, fun rest => ?_⟩
    rw [written]
    simp only [List.map_cons, List.map_nil, List.cons_append, List.nil_append]
    rw [scanString, unit?_control control]
    cases scanString rest <;> rfl
  · refine ⟨.char c, .inl rfl, fun rest => ?_⟩
    rw [written]
    simp only [List.map_cons, List.map_nil, List.cons_append, List.nil_append]
    rw [scanString, if_neg]
    · simp [backslash, plain]
    · exact quote
    all_goals simp [backslash]

/-- A code unit that is half of no surrogate pair stands for itself. -/
theorem assemble_unit {code : Nat} (small : code < 0xD800) (pieces : List Piece) :
    assemble (.unit code :: pieces) = (assemble pieces).map (Char.ofNat code :: ·) := by
  have high : ¬(0xD800 ≤ code ∧ code < 0xDC00) := by omega
  have low : ¬(0xDC00 ≤ code ∧ code < 0xE000) := by omega
  have either : ¬(0xD800 ≤ code ∧ code < 0xE000) := by omega
  cases pieces with
  | nil => simp only [assemble, if_neg either]
  | cons next pieces =>
    cases next with
    | unit other => rw [assemble, if_neg high, if_neg low]
    | char | stray =>
      rw [assemble.eq_def]
      dsimp only
      rw [if_neg either]

theorem assemble_means {piece : Piece} {c : Char} {pieces : List Piece} {text : List Char}
    (means : piece.Means c) (whole : assemble pieces = some text) :
    assemble (piece :: pieces) = some (c :: text) := by
  rcases means with rfl | ⟨rfl, control⟩
  · rw [assemble, whole]
    rfl
  · rw [assemble_unit (by omega), whole, Char.ofNat_toNat]
    rfl

/-- A string is read up to its closing quote. -/
theorem scanString_text (text : List Char) (rest : List (Option Char)) : ∃ pieces,
    assemble pieces = some text ∧
      scanString ((text.flatMap escaped).map some ++ some '"' :: rest) = some (pieces, rest) := by
  induction text with
  | nil => exact ⟨[], rfl, rfl⟩
  | cons c text ih =>
    obtain ⟨pieces, whole, scanned⟩ := ih
    obtain ⟨piece, means, scans⟩ := scanString_escaped c
    refine ⟨piece :: pieces, assemble_means means whole, ?_⟩
    rw [List.flatMap_cons, List.map_append, List.append_assoc, scans, scanned]
    rfl

/-! ### Numbers -/

def Token.Plain : Token → Prop
  | .number literal => ∃ value : Int, .number literal = integer value
  | .string content => content.isSome
  | _ => True

theorem head_natural (number : Nat) (zero : (Text.natural number).head? = some '0') :
    number = 0 := by
  unfold Text.natural at zero
  induction number using Nat.strongRecOn with
  | ind number ih =>
    rw [Nat.toDigits_eq_if (by decide)] at zero
    split at zero
    next short =>
      have each : ∀ digit : Fin 10, [Nat.digitChar digit].head? = some '0' → digit.val = 0 := by
        decide
      exact each ⟨number, short⟩ zero
    next long =>
      have filled : Nat.toDigits 10 (number / 10) ≠ [] := Nat.toDigits_ne_nil
      rw [List.head?_append, List.head?_eq_some_head filled, Option.some_or] at zero
      have shorter := ih (number / 10) (by omega) ((List.head?_eq_some_head filled).trans zero)
      omega

def Ends (rest : List (Option Char)) : Prop :=
  ∀ c, rest.head? = some (some c) → c.isDigit = false ∧ c ≠ '.' ∧ c ≠ 'e' ∧ c ≠ 'E'

theorem scanDigits_append {digits : List Char} (each : ∀ c ∈ digits, c.isDigit = true)
    {rest : List (Option Char)} (ends : Ends rest) :
    scanDigits (digits.map some ++ rest) = (digits, rest) := by
  induction digits with
  | nil =>
    cases rest with
    | nil => rfl
    | cons first rest =>
      cases first with
      | none => rfl
      | some c => simp [scanDigits, (ends c rfl).1]
  | cons c digits ih =>
    obtain ⟨digit, others⟩ := List.forall_mem_cons.mp each
    simp [scanDigits, digit, ih others]

theorem isDigit_of_mem_natural {number : Nat} {c : Char} (member : c ∈ Text.natural number) :
    c.isDigit = true :=
  Nat.isDigit_of_mem_toDigits (by decide) (by decide) member

theorem scanNumeral_natural (number : Nat) {rest : List (Option Char)} (ends : Ends rest) :
    scanNumeral ((Text.natural number).map some ++ rest) =
      some ({ whole := Text.natural number }, rest) := by
  have filled : Text.natural number ≠ [] := Nat.toDigits_ne_nil
  have canonical :
      ¬((Text.natural number).head? = some '0' ∧ 1 < (Text.natural number).length) := by
    rintro ⟨zero, long⟩
    rw [head_natural number zero] at long
    exact absurd long (by decide)
  have fraction : scanFraction rest = some ([], rest) := by
    unfold scanFraction
    split
    · exact absurd rfl (ends '.' rfl).2.1
    · rfl
  have exponent : scanExponent rest = some (none, rest) := by
    unfold scanExponent
    split
    · exact absurd rfl (ends 'e' rfl).2.2.1
    · exact absurd rfl (ends 'E' rfl).2.2.2
    · rfl
  unfold scanNumeral scanNatural
  rw [scanDigits_append (fun _ => isDigit_of_mem_natural) ends]
  simp only [if_neg filled, if_neg canonical, fraction, exponent, bind, Option.bind]
  rfl

theorem scanToken_digit {c : Char} (digit : c.isDigit = true) (rest : List (Option Char)) :
    scanToken c rest = (scanNumeral (some c :: rest)).map fun (numeral, rest) =>
      (.number ⟨false, numeral⟩, rest) := by
  unfold scanToken
  split
  all_goals first
    | rfl
    | exact absurd digit (by decide)

theorem integer?_integer {literal : Number} {value : Int}
    (written : .number literal = integer value) : literal.integer? = some value := by
  cases written
  unfold Number.integer? Text.natural
  rw [Nat.ofDigitChars_ten_toDigits]
  simp only [ne_eq, not_true_eq_false, or_self, if_false, decide_eq_true_eq]
  by_cases negative : value < 0
  · have other : value.natAbs ≠ 0 := by omega
    have same : -(value.natAbs : Int) = value := by omega
    rw [if_pos negative, if_neg other, same]
  · have same : (value.natAbs : Int) = value := by omega
    rw [if_neg negative, same]

/-! ### Tokens -/

def written (tokens : List Token) : List (Option Char) :=
  (tokens.flatMap Token.write).map some

theorem written_cons (token : Token) (tokens : List Token) :
    written (token :: tokens) = token.write.map some ++ written tokens := by
  unfold written
  rw [List.flatMap_cons, List.map_append]

def isMark : Token → Bool
  | .openArray => true
  | .closeArray => true
  | .openObject => true
  | .closeObject => true
  | .comma => true
  | .colon => true
  | _ => false

/-- Tokens that no number in front of them runs into. -/
def Marked (tokens : List Token) : Prop :=
  ∀ next ∈ tokens.head?, isMark next = true

theorem Marked.cons {token : Token} {rest : List Token} (mark : isMark token = true) :
    Marked (token :: rest) := by
  rintro next ⟨⟩
  exact mark

/-- Plain tokens of which no number stands right in front of another token than a mark. -/
inductive Spaced : List Token → Prop
  | nil : Spaced []
  | cons {token : Token} {rest : List Token} (plain : token.Plain)
    (apart : isMark token = true ∨ Marked rest) (others : Spaced rest) : Spaced (token :: rest)

theorem scan_cons {first : Char} {rest left : List (Option Char)} {token : Token}
    (solid : isSpace first = false) (scanned : scanToken first rest = some (token, left)) :
    scan (some first :: rest) = (scan left).map (token :: ·) := by
  rw [scan, solid, if_neg Bool.false_ne_true]
  split
  next none =>
    rw [scanned] at none
    cases none
  next found =>
    rw [scanned] at found
    cases found
    rfl

theorem Marked.ends {tokens : List Token} (marked : Marked tokens) : Ends (written tokens) := by
  intro c first
  cases tokens with
  | nil => cases first
  | cons token tokens =>
    rw [written_cons] at first
    have mark := marked token rfl
    cases token with
    | openArray | closeArray | openObject | closeObject | comma | colon =>
      cases first
      decide
    | _ => cases mark

theorem scan_natural (number : Nat) {rest : List (Option Char)} (ends : Ends rest) :
    scan ((Text.natural number).map some ++ rest) =
      (scan rest).map (.number ⟨false, { whole := Text.natural number }⟩ :: ·) := by
  have scanned := scanNumeral_natural number ends
  cases digits : Text.natural number with
  | nil => exact absurd digits Nat.toDigits_ne_nil
  | cons c others =>
    have member : c ∈ Text.natural number := digits ▸ List.mem_cons_self
    have digit := isDigit_of_mem_natural member
    have solid : isSpace c = false := by
      unfold isSpace
      simp only [Bool.or_eq_false_iff, decide_eq_false_iff_not]
      refine ⟨⟨⟨?_, ?_⟩, ?_⟩, ?_⟩
      all_goals
        rintro rfl
        exact absurd digit (by decide)
    rw [digits] at scanned
    apply scan_cons solid
    rw [scanToken_digit digit]
    change (scanNumeral ((c :: others).map some ++ rest)).map _ = _
    rw [scanned]
    rfl

/-- A plain token is read from its text, whatever comes after it. -/
theorem scan_token {token : Token} (plain : token.Plain) {rest : List (Option Char)}
    (apart : isMark token = true ∨ Ends rest) :
    scan (token.write.map some ++ rest) = (scan rest).map (token :: ·) := by
  cases token with
  | openArray | closeArray | openObject | closeObject | comma | colon | null | true | false =>
    exact scan_cons rfl rfl
  | number literal =>
    obtain ⟨value, integral⟩ := plain
    cases integral
    have ends : Ends rest := apart.resolve_left Bool.false_ne_true
    have digits : Floating.Numeral.write { whole := Text.natural value.natAbs } true =
        Text.natural value.natAbs := by simp [Floating.Numeral.write]
    unfold Token.write Number.write
    dsimp only
    rw [digits]
    by_cases negative : value < 0
    · simp only [negative, decide_true, if_true]
      apply scan_cons rfl
      change (scanNumeral ((Text.natural value.natAbs).map some ++ rest)).map _ = _
      rw [scanNumeral_natural _ ends]
      rfl
    · simp only [negative, decide_false, Bool.false_eq_true, if_false]
      exact scan_natural _ ends
  | string content =>
    obtain ⟨text, rfl⟩ := Option.isSome_iff_exists.mp plain
    obtain ⟨pieces, whole, scanned⟩ := scanString_text text.toList rest
    apply scan_cons rfl
    change (scanString ((text.toList.flatMap escaped ++ ['"']).map some ++ rest)).map _ = _
    rw [List.map_append, List.append_assoc]
    change (scanString ((text.toList.flatMap escaped).map some ++ some '"' :: rest)).map _ = _
    rw [scanned]
    simp only [Option.map_some, whole, String.ofList_toList]

theorem scan_written {tokens : List Token} (spaced : Spaced tokens) :
    scan (written tokens) = some tokens := by
  induction spaced with
  | nil => rw [written, List.flatMap_nil, List.map_nil, scan]
  | cons plain apart others ih =>
    rw [written_cons, scan_token plain (apart.imp_right Marked.ends), ih]
    rfl

/-! ### Documents -/

inductive Plain : Json → Prop
  | null : Plain .null
  | bool (value : Bool) : Plain (.bool value)
  | integer (value : Int) : Plain (integer value)
  | text (content : String) : Plain (text content)
  | array {items : List Json} (each : ∀ item ∈ items, Plain item) : Plain (.array items)
  | object {fields : List (Content × Json)} (named : ∀ field ∈ fields, field.1.isSome)
    (each : ∀ field ∈ fields, Plain field.2) : Plain (.object fields)

theorem firstItem_tokens (document : Json) (stack : List Frame) (rest : List Token) :
    (document.tokens ++ rest).foldlM step (.firstItem stack) =
      (document.tokens ++ rest).foldlM step (.value (.array [] :: stack)) := by
  cases document with
  | bool value => cases value <;> rfl
  | array items => cases items <;> rfl
  | object fields => cases fields <;> rfl
  | _ => rfl

mutual

/-- The tokens of a document build that document. -/
theorem foldlM_tokens (document : Json) (stack : List Frame) (rest : List Token) :
    (document.tokens ++ rest).foldlM step (.value stack) =
      rest.foldlM step (.separator document stack) := by
  cases document with
  | null | number literal | string content => rfl
  | bool value => cases value <;> rfl
  | array items =>
    cases items with
    | nil => rfl
    | cons item items =>
      simp only [tokens, List.cons_append, List.append_assoc]
      change (item.tokens ++ (itemTokens items ++ rest)).foldlM step (.firstItem stack) = _
      rw [firstItem_tokens, foldlM_tokens item, foldlM_itemTokens items]
      rfl
  | object fields =>
    cases fields with
    | nil => rfl
    | cons field fields =>
      obtain ⟨key, value⟩ := field
      simp only [tokens, List.cons_append, List.append_assoc]
      change (value.tokens ++ (fieldTokens fields ++ rest)).foldlM step
        (.value (.object [] key :: stack)) = _
      rw [foldlM_tokens value, foldlM_fieldTokens fields]
      rfl

theorem foldlM_itemTokens (items : List Json) (value : Json) (done : List Json)
    (stack : List Frame) (rest : List Token) :
    (itemTokens items ++ rest).foldlM step (.separator value (.array done :: stack)) =
      rest.foldlM step (.separator (.array ((value :: done).reverse ++ items)) stack) := by
  cases items with
  | nil => rw [List.append_nil]; rfl
  | cons item items =>
    simp only [itemTokens, List.cons_append, List.append_assoc]
    change (item.tokens ++ (itemTokens items ++ rest)).foldlM step
      (.value (.array (value :: done) :: stack)) = _
    rw [foldlM_tokens item, foldlM_itemTokens items]
    simp

theorem foldlM_fieldTokens (fields : List (Content × Json)) (key : Content) (value : Json)
    (done : List (Content × Json)) (stack : List Frame) (rest : List Token) :
    (fieldTokens fields ++ rest).foldlM step (.separator value (.object done key :: stack)) =
      rest.foldlM step
        (.separator (.object (((key, value) :: done).reverse ++ fields)) stack) := by
  cases fields with
  | nil => rw [List.append_nil]; rfl
  | cons field fields =>
    obtain ⟨next, content⟩ := field
    simp only [fieldTokens, List.cons_append, List.append_assoc]
    change (content.tokens ++ (fieldTokens fields ++ rest)).foldlM step
      (.value (.object ((key, value) :: done) next :: stack)) = _
    rw [foldlM_tokens content, foldlM_fieldTokens fields]
    simp

end

theorem build_tokens (document : Json) : build document.tokens = some document := by
  have folded := foldlM_tokens document [] []
  rw [List.append_nil] at folded
  unfold build
  rw [folded]
  rfl

theorem marked_itemTokens (items : List Json) (rest : List Token) :
    Marked (itemTokens items ++ rest) := by
  cases items with
  | nil => exact .cons rfl
  | cons item items => exact .cons rfl

theorem marked_fieldTokens (fields : List (Content × Json)) (rest : List Token) :
    Marked (fieldTokens fields ++ rest) := by
  cases fields with
  | nil => exact .cons rfl
  | cons field fields => exact .cons rfl

def Settles (document : Json) : Prop :=
  ∀ rest, Marked rest → Spaced rest → Spaced (document.tokens ++ rest)

theorem Spaced.mark {token : Token} {rest : List Token} (mark : isMark token = true)
    (others : Spaced rest) : Spaced (token :: rest) := by
  refine .cons ?_ (.inl mark) others
  cases token with
  | number | string => cases mark
  | _ => trivial

theorem spaced_itemTokens {items : List Json} (each : ∀ item ∈ items, Settles item)
    {rest : List Token} (others : Spaced rest) : Spaced (itemTokens items ++ rest) := by
  induction items with
  | nil => exact .mark rfl others
  | cons item items ih =>
    obtain ⟨first, each⟩ := List.forall_mem_cons.mp each
    simp only [itemTokens, List.cons_append, List.append_assoc]
    exact .mark rfl (first _ (marked_itemTokens items rest) (ih each))

theorem spaced_field {key : Content} {value : Json} (named : key.isSome) (settles : Settles value)
    {rest : List Token} (marked : Marked rest) (others : Spaced rest) :
    Spaced (.string key :: .colon :: value.tokens ++ rest) :=
  .cons named (.inr (Marked.cons rfl)) (.mark rfl (settles rest marked others))

theorem spaced_fieldTokens {fields : List (Content × Json)}
    (named : ∀ field ∈ fields, field.1.isSome) (each : ∀ field ∈ fields, Settles field.2)
    {rest : List Token} (others : Spaced rest) : Spaced (fieldTokens fields ++ rest) := by
  induction fields with
  | nil => exact .mark rfl others
  | cons field fields ih =>
    obtain ⟨key, names⟩ := List.forall_mem_cons.mp named
    obtain ⟨first, each⟩ := List.forall_mem_cons.mp each
    simp only [fieldTokens, List.cons_append, List.append_assoc]
    exact .mark rfl (spaced_field key first (marked_fieldTokens fields rest) (ih names each))

theorem Plain.settles {document : Json} (plain : Plain document) : Settles document := by
  induction plain with
  | null => exact fun rest marked others => .cons trivial (.inr marked) others
  | bool value =>
    intro rest marked others
    cases value with
    | true => exact .cons trivial (.inr marked) others
    | false => exact .cons trivial (.inr marked) others
  | integer value => exact fun rest marked others => .cons ⟨value, rfl⟩ (.inr marked) others
  | text content => exact fun rest marked others => .cons rfl (.inr marked) others
  | @array items each settle =>
    intro rest marked others
    cases items with
    | nil => exact .mark rfl (.mark rfl others)
    | cons item items =>
      obtain ⟨first, settle⟩ := List.forall_mem_cons.mp settle
      simp only [tokens, List.cons_append, List.append_assoc]
      exact .mark rfl
        (first _ (marked_itemTokens items rest) (spaced_itemTokens settle others))
  | @object fields named each settle =>
    intro rest marked others
    cases fields with
    | nil => exact .mark rfl (.mark rfl others)
    | cons field fields =>
      obtain ⟨key, named⟩ := List.forall_mem_cons.mp named
      obtain ⟨first, settle⟩ := List.forall_mem_cons.mp settle
      simp only [tokens, List.cons_append, List.append_assoc]
      exact .mark rfl (spaced_field key first (marked_fieldTokens fields rest)
        (spaced_fieldTokens named settle others))

theorem parse_write {document : Json} (plain : Plain document) :
    parse document.write = some document := by
  have settled := plain.settles [] (by rintro _ ⟨⟩) .nil
  rw [List.append_nil] at settled
  have scanned := scan_written settled
  unfold parse parseSymbols write
  rw [String.toList_ofList]
  change (scan (written document.tokens)).bind build = _
  rw [scanned]
  exact build_tokens document

end TimeSeries.Json
