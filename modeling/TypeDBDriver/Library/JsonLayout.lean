import TypeDBDriver.Library.JsonReading

/-! A text may put any blanks before, between and after the tokens of a value. Whatever the layout,
the value is read from its tokens. -/

namespace TypeDBDriver.Library.Json

open List (Forall₂ append_assoc cons_append forall_mem_flatMap forall_mem_nil length_append
  length_cons)

variable {α ν : Type}

def stringToken (content : String) : Text := '"' :: content.toList ++ ['"']

def commaSeparated (items : List (List Text)) : List Text := [[',']].intercalate items

def memberTokens (member : String × List Text) : List Text :=
  stringToken member.1 :: [':'] :: member.2

def tokens (number : ν → Text) : Json ν → List Text :=
  fold {
    object := fun members =>
      ['{'] :: (commaSeparated (members.map memberTokens) ++ [['}']])
    array := fun elems => ['['] :: (commaSeparated elems ++ [[']']])
    string := fun content => [stringToken content]
    number := fun value => [number value]
    boolean := fun value => [if value then ['t', 'r', 'u', 'e'] else ['f', 'a', 'l', 's', 'e']]
    null := [['n', 'u', 'l', 'l']]
  }

def strings : Json ν → List String :=
  fold {
    object := fun members => members.flatMap fun member => member.1 :: member.2
    array := List.flatten
    string := fun content => [content]
    number := fun _ => []
    boolean := fun _ => []
    null := []
  }

section Fold

variable (number : ν → Text)

theorem tokens_object (members : List (String × Json ν)) :
    tokens number (.object members) =
      ['{'] :: (commaSeparated (members.map fun member =>
        memberTokens (member.1, tokens number member.2)) ++ [['}']]) := by
  simp only [tokens, fold_object, List.map_map]
  rfl

theorem tokens_array (elems : List (Json ν)) :
    tokens number (.array elems) =
      ['['] :: (commaSeparated (elems.map (tokens number)) ++ [[']']]) := by
  simp only [tokens, fold_array]

theorem strings_object (members : List (String × Json ν)) :
    strings (.object members) = members.flatMap fun member => member.1 :: member.2.strings := by
  simp only [strings, fold_object, List.flatMap_map]

theorem strings_array (elems : List (Json ν)) : strings (.array elems) = elems.flatMap strings := by
  simp only [strings, fold_array, List.flatten_eq_flatMap, List.flatMap_map, id]

end Fold

theorem commaSeparated_cons_cons (item next : List Text) (others : List (List Text)) :
    commaSeparated (item :: next :: others) =
      item ++ [','] :: commaSeparated (next :: others) := by
  rw [commaSeparated, List.intercalate_cons_cons, append_assoc]
  rfl

theorem commaSeparated_singleton (item : List Text) : commaSeparated [item] = item := by
  simp [commaSeparated, List.intercalate]

def Blank (text : Text) : Prop := ∀ char ∈ text, isBlank char = true

/-- The text consists of these tokens and blanks around them. -/
inductive Spread : List Text → Text → Prop where
  | nil {blanks : Text} (blank : Blank blanks) : Spread [] blanks
  | cons {blanks token rest : Text} {tokens : List Text} (blank : Blank blanks)
      (spread : Spread tokens rest) : Spread (token :: tokens) (blanks ++ (token ++ rest))

namespace Spread

variable {tokens more : List Text} {token text rest : Text}

theorem inversion (spread : Spread (token :: tokens) text) :
    ∃ blanks rest, Blank blanks ∧ text = blanks ++ (token ++ rest) ∧ Spread tokens rest := by
  cases spread with
  | @cons blanks _ rest _ blank spread => exact ⟨blanks, rest, blank, rfl, spread⟩

theorem blanks_append {blanks : Text} (blank : Blank blanks) (spread : Spread tokens text) :
    Spread tokens (blanks ++ text) := by
  cases spread with
  | nil others =>
    exact .nil fun char listed => (List.mem_append.mp listed).elim (blank char)
      (others char)
  | cons others spread =>
    rw [← append_assoc]
    exact .cons (fun char listed => (List.mem_append.mp listed).elim (blank char)
      (others char)) spread

theorem append (first : Spread tokens text) (second : Spread more rest) :
    Spread (tokens ++ more) (text ++ rest) := by
  induction first with
  | nil blank => exact second.blanks_append blank
  | cons blank _ ih =>
    rw [append_assoc, append_assoc]
    exact .cons blank ih

theorem one (token : Text) : Spread [token] token := by
  have spread := @cons [] token [] [] (forall_mem_nil _) (.nil (forall_mem_nil _))
  simpa using spread

theorem intercalate {blanks : Text} (blank : Blank blanks) {items : List (List Text)}
    {texts : List Text} (each : Forall₂ Spread items texts) :
    Spread (commaSeparated items) ((',' :: blanks).intercalate texts) := by
  induction each with
  | nil => exact .nil (forall_mem_nil _)
  | @cons item text items texts spread others ih =>
    cases others with
    | nil =>
      rw [commaSeparated_singleton]
      simpa [List.intercalate] using spread
    | @cons next _ _ _ spreadNext others =>
      rw [commaSeparated_cons_cons, List.intercalate_cons_cons, append_assoc]
      exact spread.append ((one [',']).append (ih.blanks_append blank))

end Spread

def Delimited (tokens : List Text) : Prop :=
  ∀ token ∈ tokens.head?, token = [','] ∨ token = [':'] ∨ token = [']'] ∨ token = ['}']

theorem skipBlanks_append {blanks : Text} (blank : Blank blanks) (text : Text) :
    skipBlanks (blanks ++ text) = skipBlanks text :=
  List.dropWhile_append_of_pos blank

theorem skipBlanks_of_blank {blanks : Text} (blank : Blank blanks) : skipBlanks blanks = [] := by
  rw [skipBlanks, List.dropWhile_eq_nil_iff]
  exact blank

def Opens (item : List Text) : Prop :=
  ∃ first others tail, item = (first :: others) :: tail ∧ isBlank first = false ∧ first ≠ ']' ∧
    first ≠ '}'

namespace Spread

variable {tokens more : List Text} {text : Text}

theorem ends (spread : Spread tokens text) (delimited : Delimited tokens) : Ends text := by
  cases spread with
  | nil blank => exact fun next begins => .inr (blank next (List.mem_of_mem_head? begins))
  | @cons blanks token rest tokens blank spread =>
    intro next begins
    cases blanks with
    | nil =>
      rcases delimited token rfl with rfl | rfl | rfl | rfl <;> cases begins <;> decide
    | cons first blanks =>
      cases begins
      exact .inr (blank _ List.mem_cons_self)

theorem skip {first : Char} {others : Text} (solid : isBlank first = false)
    (spread : Spread ((first :: others) :: tokens) text) :
    ∃ rest, skipBlanks text = first :: (others ++ rest) ∧ Spread tokens rest ∧
      others.length + rest.length < text.length := by
  obtain ⟨blanks, rest, blank, rfl, following⟩ := spread.inversion
  refine ⟨rest, ?_, following, ?_⟩
  · rw [skipBlanks_append blank]
    exact skipBlanks_of_solid solid _
  · simp only [length_append, length_cons]
    omega

theorem skipBlanks (opens : Opens tokens) (spread : Spread tokens text) :
    Spread tokens (Json.skipBlanks text) := by
  obtain ⟨first, others, tail, rfl, solid, -⟩ := opens
  obtain ⟨rest, begins, spread, -⟩ := spread.skip solid
  rw [begins]
  exact @cons [] (first :: others) rest tail (forall_mem_nil _) spread

theorem countP_le (spread : Spread tokens text) :
    tokens.countP (fun token => token.length == 1) ≤ text.length := by
  induction spread with
  | nil => exact Nat.zero_le _
  | @cons blanks token rest tokens _ _ ih =>
    rw [List.countP_cons, length_append, length_append]
    split
    · next single =>
        have length := eq_of_beq single
        omega
    · omega

end Spread

/-- From a text of at most this length that begins with these tokens the parser reads this value. -/
def Denoted (parser : Parser α) (bound : Nat) (item : List Text) (value : α) : Prop :=
  ∀ {text : Text} {more : List Text}, text.length ≤ bound → Spread (item ++ more) text →
    Delimited more → ∃ rest, parser (skipBlanks text) = some (value, rest) ∧ Spread more rest ∧
      rest.length ≤ text.length

theorem countP_commaSeparated (item : List Text) (items : List (List Text)) :
    items.length ≤ (commaSeparated (item :: items)).countP fun token => token.length == 1 := by
  induction items generalizing item with
  | nil => exact Nat.zero_le _
  | cons next items ih =>
    have others := ih next
    rw [commaSeparated_cons_cons, List.countP_append, List.countP_cons_of_pos rfl, length_cons]
    omega

variable {item : List Text}

theorem Opens.append (opens : Opens item) (more : List Text) : Opens (item ++ more) := by
  obtain ⟨first, others, tail, rfl, plain⟩ := opens
  exact ⟨first, others, tail ++ more, rfl, plain⟩

theorem Opens.commaSeparated (opens : Opens item) (items : List (List Text)) :
    Opens (commaSeparated (item :: items)) := by
  cases items with
  | nil =>
    rw [commaSeparated_singleton]
    exact opens
  | cons next items =>
    rw [commaSeparated_cons_cons]
    exact opens.append _

section Lists

variable {close : Char} {parser : Parser α} {bound : Nat} {text : Text} {more : List Text}

theorem delimited_close (closes : close = ']' ∨ close = '}') : Delimited ([close] :: more) := by
  intro token begins
  cases begins
  rcases closes with rfl | rfl
  · exact .inr (.inr (.inl rfl))
  · exact .inr (.inr (.inr rfl))

theorem Denoted.padded {item : List Text} {value : α} (read : Denoted parser bound item value)
    (short : text.length ≤ bound) {next : Char} (solid : isBlank next = false)
    (spread : Spread (item ++ [next] :: more) text) (delimited : Delimited ([next] :: more)) :
    ∃ rest, Json.padded parser text = some (value, next :: rest) ∧ Spread more rest ∧
      rest.length ≤ text.length := by
  obtain ⟨after, found, following, shorter⟩ := read short spread delimited
  obtain ⟨rest, begins, spread, shortest⟩ := following.skip solid
  refine ⟨rest, ?_, spread, by omega⟩
  rw [Json.padded, found]
  change some (value, skipBlanks after) = _
  rw [begins, List.nil_append]

theorem separated_spread (closes : close = ']' ∨ close = '}') {item : List Text} {value : α}
    {items : List (List Text)} {values : List α} (read : Denoted parser bound item value)
    (each : Forall₂ (Denoted parser bound) items values) (short : text.length ≤ bound)
    (spread : Spread (commaSeparated (item :: items) ++ [close] :: more) text) {fuel : Nat}
    (enough : items.length < fuel) :
    ∃ rest, separated close (padded parser) fuel text = some (value :: values, rest) ∧
      Spread more rest ∧ rest.length ≤ text.length := by
  have solid : isBlank close = false := by rcases closes with rfl | rfl <;> rfl
  have notComma : close ≠ ',' := by rcases closes with rfl | rfl <;> decide
  induction each generalizing item value text fuel with
  | nil =>
    obtain ⟨fuel, rfl⟩ : ∃ smaller, fuel = smaller + 1 := ⟨fuel - 1, by omega⟩
    rw [commaSeparated_singleton] at spread
    obtain ⟨rest, found, spread, shorter⟩ :=
      read.padded short solid spread (delimited_close closes)
    exact ⟨rest, by simp [separated, found, notComma], spread, shorter⟩
  | @cons next _ items _ readNext _ ih =>
    obtain ⟨fuel, rfl⟩ : ∃ smaller, fuel = smaller + 1 := ⟨fuel - 1, by omega⟩
    rw [commaSeparated_cons_cons, append_assoc, cons_append] at spread
    have comma : Delimited ([','] :: (commaSeparated (next :: items) ++ [close] :: more)) := by
      intro token begins
      cases begins
      exact .inl rfl
    obtain ⟨middle, found, spread, shorter⟩ := read.padded short rfl spread comma
    obtain ⟨rest, others, spread, shortest⟩ :=
      ih readNext (by omega) spread (Nat.lt_of_succ_lt_succ enough)
    exact ⟨rest, by simp [separated, found, others], spread, by omega⟩

theorem bracketed_spread (closes : close = ']' ∨ close = '}') {items : List (List Text)}
    {values : List α} (each : Forall₂ (Denoted parser bound) items values)
    (opens : ∀ item ∈ items, Opens item) (short : text.length ≤ bound)
    (spread : Spread (commaSeparated items ++ [close] :: more) text) :
    ∃ rest, bracketed close parser text = some (values, rest) ∧ Spread more rest ∧
      rest.length ≤ text.length := by
  have solid : isBlank close = false := by rcases closes with rfl | rfl <;> rfl
  cases each with
  | nil =>
    obtain ⟨rest, begins, spread, shorter⟩ := Spread.skip solid spread
    refine ⟨rest, ?_, spread, by omega⟩
    rw [bracketed, begins]
    exact if_pos rfl
  | @cons item _ items _ read each =>
    have commas := countP_commaSeparated item items
    have counted := spread.countP_le
    rw [List.countP_append, List.countP_cons_of_pos rfl] at counted
    have begins := ((opens item List.mem_cons_self).commaSeparated items).append
      ([close] :: more)
    have shorter : (skipBlanks text).length ≤ text.length := List.length_dropWhile_le _ _
    obtain ⟨rest, found, following, shortest⟩ := separated_spread closes read each
      (Nat.le_trans shorter short) (spread.skipBlanks begins)
      (by omega : items.length < text.length)
    obtain ⟨first, others, tail, shape, firstSolid, notBracket, notBrace⟩ := begins
    have notClose : first ≠ close := by rcases closes with rfl | rfl <;> assumption
    rw [shape] at spread
    obtain ⟨_, start, -⟩ := spread.skip firstSolid
    refine ⟨rest, ?_, following, by omega⟩
    rw [start] at found
    rw [bracketed, start]
    exact (if_neg notClose).trans found

end Lists

theorem quoted_stringToken {content : String}
    (plain : ∀ char ∈ content.toList, Plain char) (rest : Text) :
    quoted (stringToken content ++ rest) = some (content, rest) := by
  have spelled : ∀ char ∈ content.toList, Spells [char] char :=
    fun char listed => spells_plain (plain char listed)
  have enough : content.toList.length < (content.toList ++ '"' :: rest).length := by
    rw [length_append, length_cons]
    omega
  have read := characters_spelled spelled rest enough
  rw [List.flatMap_singleton'] at read
  simp only [stringToken, cons_append, append_assoc, List.nil_append, quoted, read]
  simp

theorem Denoted.member {parser : Parser α} {bound : Nat} {key : String} {value : α}
    (plain : ∀ char ∈ key.toList, Plain char) (read : Denoted parser bound item value) :
    Denoted (Json.member parser) bound (memberTokens (key, item)) (key, value) := by
  intro text more short spread delimited
  obtain ⟨afterKey, begins, spread, shorter⟩ := Spread.skip rfl spread
  obtain ⟨afterColon, colon, spread, shortest⟩ := Spread.skip rfl spread
  have keyRead : quoted (skipBlanks text) = some (key, afterKey) := by
    rw [begins]
    exact quoted_stringToken plain afterKey
  have colon : skipBlanks afterKey = ':' :: afterColon := colon
  obtain ⟨rest, found, spread, least⟩ := read (by omega) spread delimited
  refine ⟨rest, ?_, spread, by omega⟩
  simp [Json.member, keyRead, colon, found]

structure NumberToken (parser : Parser α) (text : Text) (read : α) : Prop where
  begins : ∃ first others, text = first :: others ∧ (first = '-' ∨ first.isDigit = true)
  reads : ∀ rest, Ends rest → parser (text ++ rest) = some (read, rest)

section Value

variable {number : ν → Text} {parser : Parser α} {denote : ν → α} {json : Json ν}

theorem tokens_opens
    (numeric : ∀ value ∈ json.numbers, NumberToken parser (number value) (denote value)) :
    Opens (tokens number json) := by
  cases json with
  | object members =>
    rw [tokens_object]
    exact ⟨'{', [], _, rfl, rfl, by decide, by decide⟩
  | array elems =>
    rw [tokens_array]
    exact ⟨'[', [], _, rfl, rfl, by decide, by decide⟩
  | string content => exact ⟨'"', content.toList ++ ['"'], [], rfl, rfl, by decide, by decide⟩
  | number value =>
    obtain ⟨first, others, begins, isNumeric⟩ := (numeric value (List.mem_singleton.mpr rfl)).begins
    exact ⟨first, others, [], congrArg (fun text => [text]) begins, isBlank_of_numeric isNumeric,
      ne_of_numeric isNumeric (by decide), ne_of_numeric isNumeric (by decide)⟩
  | boolean truth =>
    cases truth with
    | false => exact ⟨'f', ['a', 'l', 's', 'e'], [], rfl, rfl, by decide, by decide⟩
    | true => exact ⟨'t', ['r', 'u', 'e'], [], rfl, rfl, by decide, by decide⟩
  | null => exact ⟨'n', ['u', 'l', 'l'], [], rfl, rfl, by decide, by decide⟩

section

variable (plain : ∀ content ∈ json.strings, ∀ char ∈ content.toList, Plain char)
    (numeric : ∀ value ∈ json.numbers, NumberToken parser (number value) (denote value))

include plain numeric

theorem denoted_value (fuel : Nat) :
    Denoted (valueOf parser fuel) fuel (tokens number json) (json.map denote) := by
  induction json generalizing fuel with
  | object members ih =>
    rw [strings_object, forall_mem_flatMap] at plain
    rw [numbers_object, forall_mem_flatMap] at numeric
    intro text more short spread delimited
    rw [tokens_object, cons_append, append_assoc] at spread
    obtain ⟨inner, begins, spread, shorter⟩ := Spread.skip rfl spread
    obtain ⟨fuel, rfl⟩ : ∃ smaller, fuel = smaller + 1 := ⟨fuel - 1, by omega⟩
    have each : Forall₂ (Denoted (member (valueOf parser fuel)) fuel)
        (members.map fun member => memberTokens (member.1, tokens number member.2))
        (members.map fun member => (member.1, member.2.map denote)) := by
      rw [List.forall₂_map_left_iff, List.forall₂_map_right_iff, List.forall₂_same]
      intro member listed
      obtain ⟨plainKey, plainValue⟩ := List.forall_mem_cons.mp (plain member listed)
      exact Denoted.member plainKey (ih member listed plainValue (numeric member listed) fuel)
    have opens : ∀ item ∈ members.map fun member =>
        memberTokens (member.1, tokens number member.2), Opens item := by
      intro item listed
      obtain ⟨member, -, rfl⟩ := List.mem_map.mp listed
      exact ⟨'"', member.1.toList ++ ['"'], _, rfl, rfl, by decide, by decide⟩
    obtain ⟨rest, found, spread, shortest⟩ :=
      bracketed_spread (.inr rfl) each opens (by omega) spread
    refine ⟨rest, ?_, spread, by omega⟩
    rw [begins, map_object]
    simp [valueOf, found]
  | array elems ih =>
    rw [strings_array, forall_mem_flatMap] at plain
    rw [numbers_array, forall_mem_flatMap] at numeric
    intro text more short spread delimited
    rw [tokens_array, cons_append, append_assoc] at spread
    obtain ⟨inner, begins, spread, shorter⟩ := Spread.skip rfl spread
    obtain ⟨fuel, rfl⟩ : ∃ smaller, fuel = smaller + 1 := ⟨fuel - 1, by omega⟩
    have each : Forall₂ (Denoted (valueOf parser fuel) fuel) (elems.map (tokens number))
        (elems.map (map denote)) := by
      rw [List.forall₂_map_left_iff, List.forall₂_map_right_iff, List.forall₂_same]
      exact fun elem listed =>
        ih elem listed (plain elem listed) (numeric elem listed) fuel
    have opens : ∀ item ∈ elems.map (tokens number), Opens item := by
      intro item listed
      obtain ⟨elem, member, rfl⟩ := List.mem_map.mp listed
      exact tokens_opens (numeric elem member)
    obtain ⟨rest, found, spread, shortest⟩ :=
      bracketed_spread (.inl rfl) each opens (by omega) spread
    refine ⟨rest, ?_, spread, by omega⟩
    rw [begins, map_array]
    simp [valueOf, found]
  | string content =>
    intro text more short spread delimited
    obtain ⟨rest, begins, spread, shorter⟩ := Spread.skip rfl spread
    obtain ⟨fuel, rfl⟩ : ∃ smaller, fuel = smaller + 1 := ⟨fuel - 1, by omega⟩
    have read : quoted ('"' :: (content.toList ++ ['"'] ++ rest)) = some (content, rest) :=
      quoted_stringToken (plain content (List.mem_singleton.mpr rfl)) rest
    refine ⟨rest, ?_, spread, by omega⟩
    rw [begins]
    change (quoted ('"' :: (content.toList ++ ['"'] ++ rest)) >>= _) = _
    rw [read]
    rfl
  | number value =>
    intro text more short spread delimited
    have token := numeric value (List.mem_singleton.mpr rfl)
    obtain ⟨first, others, shape, isNumeric⟩ := token.begins
    have spread : Spread ((first :: others) :: more) text := shape ▸ spread
    obtain ⟨rest, begins, spread, shorter⟩ := spread.skip (isBlank_of_numeric isNumeric)
    obtain ⟨fuel, rfl⟩ : ∃ smaller, fuel = smaller + 1 := ⟨fuel - 1, by omega⟩
    have read := token.reads rest (spread.ends delimited)
    rw [shape] at read
    refine ⟨rest, ?_, spread, by omega⟩
    rw [begins]
    exact valueOf_of_number isNumeric read fuel
  | boolean truth =>
    intro text more short spread delimited
    cases truth with
    | false =>
      obtain ⟨rest, begins, spread, shorter⟩ := Spread.skip rfl spread
      obtain ⟨fuel, rfl⟩ : ∃ smaller, fuel = smaller + 1 := ⟨fuel - 1, by omega⟩
      exact ⟨rest, by rw [begins]; rfl, spread, by omega⟩
    | true =>
      obtain ⟨rest, begins, spread, shorter⟩ := Spread.skip rfl spread
      obtain ⟨fuel, rfl⟩ : ∃ smaller, fuel = smaller + 1 := ⟨fuel - 1, by omega⟩
      exact ⟨rest, by rw [begins]; rfl, spread, by omega⟩
  | null =>
    intro text more short spread delimited
    obtain ⟨rest, begins, spread, shorter⟩ := Spread.skip rfl spread
    obtain ⟨fuel, rfl⟩ : ∃ smaller, fuel = smaller + 1 := ⟨fuel - 1, by omega⟩
    exact ⟨rest, by rw [begins]; rfl, spread, by omega⟩

theorem parse_of_spread {text : Text} (spread : Spread (tokens number json) text) :
    parseOf parser text = some (json.map denote) := by
  rw [← List.append_nil (tokens number json)] at spread
  have last : Delimited [] := fun token begins => by cases begins
  obtain ⟨rest, found, spread, -⟩ :=
    denoted_value plain numeric text.length (Nat.le_refl _) spread last
  cases spread with
  | nil blank =>
    have whole : padded (valueOf parser text.length) text = some (json.map denote, []) := by
      simp [padded, found, skipBlanks_of_blank blank]
    simp [parseOf, whole]

end

end Value

end TypeDBDriver.Library.Json
