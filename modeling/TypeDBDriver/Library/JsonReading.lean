import TypeDBDriver.Library.JsonGrammar

/-! The text of a value is read back from the texts of its parts. -/

namespace TypeDBDriver.Library.Json

variable {α : Type}

def Delimits (rest : Text) : Prop :=
  ∀ next ∈ rest.head?, next = ',' ∨ next = ':' ∨ next = ']' ∨ next = '}'

theorem delimits_nil : Delimits [] := by simp [Delimits]

theorem delimits_cons {next : Char} {rest : Text}
    (delimiter : next = ',' ∨ next = ':' ∨ next = ']' ∨ next = '}') : Delimits (next :: rest) := by
  simpa [Delimits] using delimiter

def Ends (rest : Text) : Prop :=
  ∀ next ∈ rest.head?, (next = ',' ∨ next = ':' ∨ next = ']' ∨ next = '}') ∨ isBlank next = true

variable {rest : Text}

theorem Delimits.ends (delimited : Delimits rest) : Ends rest :=
  fun next begins => .inl (delimited next begins)

/-- The parser reads this value from this text, whatever delimiter stands after it. -/
structure Reads (parser : Parser α) (text : Text) (value : α) : Prop where
  opens : ∃ first others, text = first :: others ∧ isBlank first = false ∧ first ≠ ']' ∧
    first ≠ '}'
  reads : ∀ rest, Delimits rest → parser (text ++ rest) = some (value, rest)

variable {first : Char}

theorem skipBlanks_of_solid (solid : isBlank first = false) (rest : Text) :
    skipBlanks (first :: rest) = first :: rest := by
  simp [skipBlanks, solid]

variable {parser : Parser α} {text : Text}

theorem Reads.skipBlanks_eq {value : α} (read : Reads parser text value) (rest : Text) :
    skipBlanks (text ++ rest) = text ++ rest := by
  obtain ⟨first, others, begins, solid, _⟩ := read.opens
  rw [begins]
  exact skipBlanks_of_solid solid (others ++ rest)

theorem skipBlanks_of_delimits (delimited : Delimits rest) : skipBlanks rest = rest := by
  cases rest with
  | nil => rfl
  | cons next rest =>
    apply skipBlanks_of_solid
    rcases delimited next rfl with rfl | rfl | rfl | rfl <;> rfl

theorem Reads.padded {value : α} {padding : Text} (read : Reads parser text value)
    (delimited : Delimits rest) (skipped : skipBlanks padding = text ++ rest) :
    Json.padded parser padding = some (value, rest) := by
  simp [Json.padded, skipped, read.reads rest delimited, skipBlanks_of_delimits delimited]

def joined : List Text → Text
  | [] => []
  | [text] => text
  | text :: next :: others => text ++ ',' :: ' ' :: joined (next :: others)

theorem joined_cons (text : Text) (others : List Text) :
    ∃ tail, joined (text :: others) = text ++ tail := by
  cases others with
  | nil => exact ⟨[], (List.append_nil text).symm⟩
  | cons next others => exact ⟨_, rfl⟩

theorem Reads.skipBlanks_joined {value : α} (read : Reads parser text value)
    (others : List Text) (rest : Text) :
    skipBlanks (joined (text :: others) ++ rest) = joined (text :: others) ++ rest := by
  obtain ⟨tail, begins⟩ := joined_cons text others
  rw [begins, List.append_assoc]
  exact read.skipBlanks_eq _

theorem separated_joined {close : Char} (closes : close = ']' ∨ close = '}')
    {parser : Parser α} {text : Text} {value : α} {texts : List Text} {values : List α}
    (read : Reads parser text value) (each : List.Forall₂ (Reads parser) texts values) (rest : Text)
    {fuel : Nat} (enough : texts.length < fuel) {padding : Text}
    (skipped : skipBlanks padding = joined (text :: texts) ++ close :: rest) :
    separated close (padded parser) fuel padding = some (value :: values, rest) := by
  have closing : Delimits (close :: rest) := delimits_cons (by tauto)
  have notComma : close ≠ ',' := by rcases closes with rfl | rfl <;> decide
  induction each generalizing text value fuel padding with
  | nil =>
    obtain ⟨fuel, rfl⟩ : ∃ smaller, fuel = smaller + 1 := ⟨fuel - 1, by omega⟩
    simp [separated, read.padded closing skipped, notComma]
  | @cons next _ others _ readNext each ih =>
    obtain ⟨fuel, rfl⟩ : ∃ smaller, fuel = smaller + 1 := ⟨fuel - 1, by omega⟩
    have comma : Delimits (',' :: ' ' :: (joined (next :: others) ++ close :: rest)) :=
      delimits_cons (by simp)
    have item := read.padded comma (by simpa [joined] using skipped)
    have blank : skipBlanks (' ' :: (joined (next :: others) ++ close :: rest)) =
        joined (next :: others) ++ close :: rest :=
      readNext.skipBlanks_joined others (close :: rest)
    have following := ih readNext (by simpa using enough) blank
    simp [separated, item, following]

variable {texts : List Text}

theorem length_le_joined {values : List α} (each : List.Forall₂ (Reads parser) texts values) :
    texts.length ≤ (joined texts).length := by
  induction each with
  | nil => exact Nat.zero_le _
  | @cons text _ others _ read each ih =>
    obtain ⟨first, tail, rfl, _⟩ := read.opens
    cases others with
    | nil => simp [joined]
    | cons next others =>
      simp only [joined, List.length_append, List.length_cons] at ih ⊢
      omega

theorem bracketed_joined {close : Char} (closes : close = ']' ∨ close = '}')
    {parser : Parser α} {texts : List Text} {values : List α}
    (each : List.Forall₂ (Reads parser) texts values) (rest : Text) :
    bracketed close parser (joined texts ++ close :: rest) = some (values, rest) := by
  cases each with
  | nil =>
    have solid : isBlank close = false := by rcases closes with rfl | rfl <;> rfl
    simp [bracketed, joined, skipBlanks_of_solid solid]
  | @cons text _ others _ read each =>
    have begins := read.skipBlanks_joined others (close :: rest)
    have bound := length_le_joined (.cons read each)
    obtain ⟨first, tail, rfl, solid, notBracket, notBrace⟩ := read.opens
    obtain ⟨following, shape⟩ := joined_cons (first :: tail) others
    have notClose : first ≠ close := by rcases closes with rfl | rfl <;> assumption
    have enough :
        others.length < (joined ((first :: tail) :: others) ++ close :: rest).length := by
      simp only [List.length_append, List.length_cons] at bound ⊢
      omega
    have listed := separated_joined closes read each rest enough begins
    simp only [shape, List.cons_append] at begins listed ⊢
    simp only [bracketed, begins, if_neg notClose]
    exact listed

structure Spells (text : Text) (denoted : Char) : Prop where
  opens : ∃ first others, text = first :: others ∧ first ≠ '"'
  reads : ∀ rest, char (text ++ rest) = some (denoted, rest)

theorem spells_plain {denoted : Char} (plain : Plain denoted) : Spells [denoted] denoted where
  opens := ⟨denoted, [], rfl, plain.1⟩
  reads := by
    intro rest
    simp [char, plain, plain.2.1]

variable {spell : Char → Text} {fuel : Nat}

theorem characters_spelled {content : Text}
    (spelled : ∀ denoted ∈ content, Spells (spell denoted) denoted) (rest : Text)
    (enough : content.length < fuel) :
    chars fuel (content.flatMap spell ++ '"' :: rest) = some (content, rest) := by
  induction content generalizing fuel with
  | nil =>
    obtain ⟨fuel, rfl⟩ : ∃ smaller, fuel = smaller + 1 := ⟨fuel - 1, by omega⟩
    rfl
  | cons denoted content ih =>
    obtain ⟨fuel, rfl⟩ : ∃ smaller, fuel = smaller + 1 := ⟨fuel - 1, by omega⟩
    obtain ⟨first, others, shape, notQuote⟩ := (spelled denoted List.mem_cons_self).opens
    have begins := (spelled denoted List.mem_cons_self).reads
      (content.flatMap spell ++ '"' :: rest)
    have following := ih (fun other listed => spelled other (List.mem_cons_of_mem _ listed))
      (show content.length < fuel by simpa using enough)
    rw [List.flatMap_cons, List.append_assoc]
    unfold chars
    rw [shape] at begins ⊢
    simp only [List.cons_append] at begins ⊢
    split
    · next isQuote => exact absurd (List.cons.inj isQuote).1 notQuote
    · simp [begins, following]

theorem length_le_spelled {content : Text}
    (spelled : ∀ denoted ∈ content, Spells (spell denoted) denoted) :
    content.length ≤ (content.flatMap spell).length := by
  induction content with
  | nil => exact Nat.zero_le _
  | cons denoted content ih =>
    obtain ⟨first, others, shape, _⟩ := (spelled denoted List.mem_cons_self).opens
    have following := ih fun other listed => spelled other (List.mem_cons_of_mem _ listed)
    simp only [List.flatMap_cons, List.length_append, List.length_cons, shape]
    omega

variable {content : String}

theorem quoted_spelled (spelled : ∀ denoted ∈ content.toList, Spells (spell denoted) denoted) :
    Reads quoted ('"' :: content.toList.flatMap spell ++ ['"']) content where
  opens := ⟨'"', content.toList.flatMap spell ++ ['"'], rfl, rfl, by decide, by decide⟩
  reads := by
    intro rest _
    have bound := length_le_spelled spelled
    have enough : content.toList.length < (content.toList.flatMap spell ++ '"' :: rest).length := by
      rw [List.length_append, List.length_cons]
      omega
    simp only [List.cons_append, List.append_assoc, List.nil_append, quoted,
      characters_spelled spelled rest enough]
    simp

theorem Reads.member {keyText : Text} {key : String} {value : α}
    (keyRead : Reads quoted keyText key) (read : Reads parser text value) :
    Reads (Json.member parser) (keyText ++ ':' :: ' ' :: text) (key, value) where
  opens := by
    obtain ⟨first, others, begins, solid⟩ := keyRead.opens
    exact ⟨first, others ++ ':' :: ' ' :: text, by simp [begins], solid⟩
  reads := by
    intro rest delimited
    have colon : Delimits (':' :: ' ' :: (text ++ rest)) := delimits_cons (by simp)
    have blank : skipBlanks (' ' :: (text ++ rest)) = text ++ rest := read.skipBlanks_eq rest
    simp [Json.member, keyRead.reads _ colon, skipBlanks_of_delimits colon, blank,
      read.reads rest delimited]

theorem reads_object {members : List (String × Json Numeral)}
    (each : List.Forall₂ (Reads (member (value fuel))) texts members) :
    Reads (value (fuel + 1)) ('{' :: joined texts ++ ['}']) (.object members) where
  opens := ⟨'{', joined texts ++ ['}'], rfl, rfl, by decide, by decide⟩
  reads := by
    intro rest _
    simp [valueOf, bracketed_joined (.inr rfl) each rest]

theorem reads_array {elems : List (Json Numeral)}
    (each : List.Forall₂ (Reads (value fuel)) texts elems) :
    Reads (value (fuel + 1)) ('[' :: joined texts ++ [']']) (.array elems) where
  opens := ⟨'[', joined texts ++ [']'], rfl, rfl, by decide, by decide⟩
  reads := by
    intro rest _
    simp [valueOf, bracketed_joined (.inl rfl) each rest]

theorem reads_string (spelled : ∀ denoted ∈ content.toList, Spells (spell denoted) denoted)
    (fuel : Nat) :
    Reads (value (fuel + 1)) ('"' :: content.toList.flatMap spell ++ ['"']) (.string content) where
  opens := (quoted_spelled spelled).opens
  reads := by
    intro rest delimited
    have read := (quoted_spelled spelled).reads rest delimited
    simp only [List.cons_append, List.append_assoc, List.nil_append] at read ⊢
    simp [valueOf, read]

theorem reads_boolean (fuel : Nat) (truth : Bool) :
    Reads (value (fuel + 1)) (if truth then ['t', 'r', 'u', 'e'] else ['f', 'a', 'l', 's', 'e'])
      (.boolean truth) := by
  cases truth with
  | false => exact ⟨⟨'f', ['a', 'l', 's', 'e'], rfl, rfl, by decide, by decide⟩, fun _ _ => rfl⟩
  | true => exact ⟨⟨'t', ['r', 'u', 'e'], rfl, rfl, by decide, by decide⟩, fun _ _ => rfl⟩

theorem reads_null (fuel : Nat) : Reads (value (fuel + 1)) ['n', 'u', 'l', 'l'] .null :=
  ⟨⟨'n', ['u', 'l', 'l'], rfl, rfl, by decide, by decide⟩, fun _ _ => rfl⟩

theorem ne_of_numeric {other : Char} (numeric : first = '-' ∨ first.isDigit = true)
    (notNumeric : ¬ (other = '-' ∨ other.isDigit = true)) : first ≠ other :=
  fun same => notNumeric (same ▸ numeric)

theorem isBlank_of_numeric (numeric : first = '-' ∨ first.isDigit = true) :
    isBlank first = false := by
  simp [isBlank, ne_of_numeric numeric (by decide : ¬ (' ' = '-' ∨ ' '.isDigit = true)),
    ne_of_numeric numeric (by decide : ¬ ('\t' = '-' ∨ '\t'.isDigit = true)),
    ne_of_numeric numeric (by decide : ¬ ('\n' = '-' ∨ '\n'.isDigit = true)),
    ne_of_numeric numeric (by decide : ¬ ('\r' = '-' ∨ '\r'.isDigit = true))]

variable {others : Text}

theorem valueOf_of_number {number : α} (numeric : first = '-' ∨ first.isDigit = true)
    (read : parser (first :: others) = some (number, rest)) (fuel : Nat) :
    valueOf parser (fuel + 1) (first :: others) = some (.number number, rest) := by
  unfold valueOf
  split
  case h_7 => simp [read]
  all_goals
    next shape => exact absurd (List.cons.inj shape).1 (ne_of_numeric numeric (by decide))

theorem reads_number {number : Numeral} (begins : text = first :: others)
    (numeric : first = '-' ∨ first.isDigit = true)
    (read : ∀ rest, Delimits rest → numeral (text ++ rest) = some (number, rest)) (fuel : Nat) :
    Reads (value (fuel + 1)) text (.number number) := by
  refine ⟨⟨first, others, begins, isBlank_of_numeric numeric, ne_of_numeric numeric (by decide),
    ne_of_numeric numeric (by decide)⟩, ?_⟩
  intro rest delimited
  have result := read rest delimited
  subst begins
  exact valueOf_of_number numeric result fuel

theorem parse_of_reads {json : Json Numeral} (read : Reads (value text.length) text json) :
    parse text = some json := by
  have whole := read.padded delimits_nil (by simpa using read.skipBlanks_eq [])
  simp [parseOf, whole]

end TypeDBDriver.Library.Json
