import DriverAlerts.Proofs.Json.Token
import DriverAlerts.Json.Reader
import DriverAlerts.Json.Writer
/-!
# Values read back

A written value is a sequence of tokens with blanks between them, and the reader delivers the value
those tokens spell to whatever is open around it. Both halves hold with anything behind the value, so
that items and members can be taken one after the other. The only values that do not come back are
those with a text that nothing names.
-/

namespace DriverAlerts.Json

/-! ### The tokens of a value -/

mutual

def tokens : Json → List Token
  | .null => [.null]
  | .bool b => [.bool b]
  | .number n => [.number n]
  | .string text => [.string text]
  | .array [] => [.openArray, .closeArray]
  | .array (item :: items) => .openArray :: (tokens item ++ itemTokens items)
  | .object [] => [.openObject, .closeObject]
  | .object ((name, value) :: members) =>
    .openObject :: .string name :: .colon :: (tokens value ++ memberTokens members)

/-- The tokens behind the first item. -/
def itemTokens : List Json → List Token
  | [] => [.closeArray]
  | item :: items => .comma :: (tokens item ++ itemTokens items)

/-- The tokens behind the first member. -/
def memberTokens : List (Option String × Json) → List Token
  | [] => [.closeObject]
  | (name, value) :: members =>
    .comma :: .string name :: .colon :: (tokens value ++ memberTokens members)

end

/-- Every text of the value, member names included, is named by its spelling. -/
def Legible (value : Json) : Prop :=
  ∀ token ∈ value.tokens, token.Legible

theorem legible_array {items : List Json} :
    (array items).Legible ↔ ∀ item ∈ items, item.Legible := by
  have hitems : ∀ items, (∀ token ∈ itemTokens items, token.Legible) ↔
      ∀ item ∈ items, item.Legible := by
    intro items
    induction items with
    | nil => simp [itemTokens, Token.Legible]
    | cons item items ih =>
        rw [itemTokens, List.forall_mem_cons, List.forall_mem_append, ih, List.forall_mem_cons]
        simp [Token.Legible, Legible]
  rw [Legible]
  cases items with
  | nil => simp [tokens, Token.Legible]
  | cons item items =>
      rw [tokens, List.forall_mem_cons, List.forall_mem_append, hitems, List.forall_mem_cons]
      simp [Token.Legible, Legible]

theorem legible_object {members : List (Option String × Json)} :
    (object members).Legible ↔
      ∀ member ∈ members, (Token.string member.1).Legible ∧ member.2.Legible := by
  have hmembers : ∀ members, (∀ token ∈ memberTokens members, token.Legible) ↔
      ∀ member ∈ members, (Token.string member.1).Legible ∧ member.2.Legible := by
    intro members
    induction members with
    | nil => simp [memberTokens, Token.Legible]
    | cons member members ih =>
        rw [memberTokens, List.forall_mem_cons, List.forall_mem_cons, List.forall_mem_cons,
          List.forall_mem_append, ih, List.forall_mem_cons]
        simp [Token.Legible, Legible, and_assoc]
  rw [Legible]
  cases members with
  | nil => simp [tokens, Token.Legible]
  | cons member members =>
      rw [tokens, List.forall_mem_cons, List.forall_mem_cons, List.forall_mem_cons,
        List.forall_mem_append, hmembers, List.forall_mem_cons]
      simp [Token.Legible, Legible, and_assoc]

theorem legible_record {members : List (String × Json)} :
    (record members).Legible ↔ ∀ member ∈ members, member.2.Legible := by
  rw [record, legible_object, List.forall_mem_map]
  simp [Token.Legible]

theorem legible_null : null.Legible := by
  simp [Legible, tokens, Token.Legible]

theorem legible_bool (b : Bool) : (bool b).Legible := by
  simp [Legible, tokens, Token.Legible]

theorem legible_number (n : Numeral) : (number n).Legible := by
  simp [Legible, tokens, Token.Legible]

theorem legible_ofString (text : String) : (ofString text).Legible := by
  simp [ofString, Legible, tokens, Token.Legible]

/-! ### From tokens to the value -/

/-- A value never starts with the end of another one. -/
theorem exists_tokens (value : Json) :
    ∃ token rest, value.tokens = token :: rest ∧ token ≠ .closeArray := by
  cases value with
  | array items => cases items <;> exact ⟨_, _, rfl, nofun⟩
  | object members => cases members <;> exact ⟨_, _, rfl, nofun⟩
  | _ => exact ⟨_, _, rfl, nofun⟩

theorem readFrom_item (stack : List Frame) (value : Json) (rest : List Token) :
    readFrom (.reading stack .item) (value.tokens ++ rest) =
      readFrom (.reading stack .value) (value.tokens ++ rest) := by
  obtain ⟨token, tail, htokens, hclose⟩ := value.exists_tokens
  rw [htokens, List.cons_append, readFrom, readFrom, Progress.step, Progress.step, if_neg hclose]

-- The recursion is that of the value. What is open around it and what follows are arbitrary, so that
-- a value inside another one is an instance.
mutual

/-- A value is delivered to what is open around it. -/
theorem readFrom_tokens_append (value : Json) (stack : List Frame) (rest : List Token) :
    readFrom (.reading stack .value) (value.tokens ++ rest) =
      (Progress.deliver value stack).bind fun progress => readFrom progress rest := by
  match value with
  | .null | .bool _ | .number _ | .string _ => rw [tokens]; rfl
  | .array [] => rw [tokens]; rfl
  | .array (item :: items) =>
      have hitem := readFrom_tokens_append item (.items [] :: stack) (itemTokens items ++ rest)
      have hitems := readFrom_itemTokens_append items [item] stack rest
      rw [tokens, List.cons_append, List.append_assoc]
      change readFrom (.reading (.items [] :: stack) .item) _ = _
      rw [readFrom_item, hitem]
      exact hitems
  | .object [] => rw [tokens]; rfl
  | .object ((name, value) :: members) =>
      have hvalue :=
        readFrom_tokens_append value (.named [] name :: stack) (memberTokens members ++ rest)
      have hmembers := readFrom_memberTokens_append members [(name, value)] stack rest
      rw [tokens, List.cons_append, List.cons_append, List.cons_append, List.append_assoc]
      change readFrom (.reading (.named [] name :: stack) .value) _ = _
      rw [hvalue]
      exact hmembers

theorem readFrom_itemTokens_append (items done : List Json) (stack : List Frame)
    (rest : List Token) :
    readFrom (.reading (.items done :: stack) .separator) (itemTokens items ++ rest) =
      (Progress.deliver (.array (done.reverse ++ items)) stack).bind
        fun progress => readFrom progress rest := by
  match items with
  | [] => rw [itemTokens, List.append_nil]; rfl
  | item :: items =>
      have hitem := readFrom_tokens_append item (.items done :: stack) (itemTokens items ++ rest)
      have hitems := readFrom_itemTokens_append items (item :: done) stack rest
      rw [List.reverse_cons, List.append_assoc, List.singleton_append] at hitems
      rw [itemTokens, List.cons_append, List.append_assoc]
      change readFrom (.reading (.items done :: stack) .value) _ = _
      rw [hitem]
      exact hitems

theorem readFrom_memberTokens_append (members done : List (Option String × Json))
    (stack : List Frame) (rest : List Token) :
    readFrom (.reading (.members done :: stack) .separator) (memberTokens members ++ rest) =
      (Progress.deliver (.object (done.reverse ++ members)) stack).bind
        fun progress => readFrom progress rest := by
  match members with
  | [] => rw [memberTokens, List.append_nil]; rfl
  | (name, value) :: members =>
      have hvalue :=
        readFrom_tokens_append value (.named done name :: stack) (memberTokens members ++ rest)
      have hmembers := readFrom_memberTokens_append members ((name, value) :: done) stack rest
      rw [List.reverse_cons, List.append_assoc, List.singleton_append] at hmembers
      rw [memberTokens, List.cons_append, List.cons_append, List.cons_append, List.append_assoc]
      change readFrom (.reading (.named done name :: stack) .value) _ = _
      rw [hvalue]
      exact hmembers

end

theorem ofTokens?_tokens (value : Json) : ofTokens? value.tokens = some value := by
  have hread := readFrom_tokens_append value [] []
  rw [List.append_nil] at hread
  rw [ofTokens?, Progress.start, hread]
  rfl

theorem ofText?_of_tokens {text : String} {value : Json}
    (h : Token.ofText? text.toList = some value.tokens) : ofText? text = some value := by
  rw [ofText?, h, Option.bind_some, ofTokens?_tokens]

/-! ### From text to tokens -/

/-- Only blanks are written between tokens. -/
structure Layout.Blank (layout : Layout) : Prop where
  line : ∀ depth, ∀ c ∈ layout.line depth, Token.isBlank c
  gap : ∀ c ∈ layout.gap, Token.isBlank c

theorem Layout.blank_compact : Layout.compact.Blank where
  line _ _ hc := nomatch hc
  gap _ hc := nomatch hc

theorem Layout.blank_pretty : Layout.pretty.Blank where
  line depth c hc := by
    rcases List.mem_cons.mp hc with rfl | hc
    · rfl
    · rw [(List.mem_replicate.mp hc).2]
      rfl
  gap c hc := by
    rw [List.mem_singleton.mp hc]
    rfl

theorem ends_blanks_append {blanks : List Char} (hblanks : ∀ c ∈ blanks, Token.isBlank c)
    {rest : List Char} (hrest : Numeral.Ends rest) : Numeral.Ends (blanks ++ rest) := by
  cases blanks with
  | nil => exact hrest
  | cons c blanks => exact Token.ends_cons_of_isBlank (hblanks c List.mem_cons_self) _

section Text

variable {layout : Layout} (hlayout : layout.Blank)
include hlayout

/-- What is written behind an item ends it. -/
theorem ends_spellItems_append (depth outer : Nat) (items : List Json) (rest : List Char) :
    Numeral.Ends (spellItems layout depth items ++
      (layout.line outer ++ (Token.closeArray.spell ++ rest))) := by
  cases items with
  | nil => exact ends_blanks_append (hlayout.line outer) (Numeral.ends_cons (by decide) rest)
  | cons item items => exact Numeral.ends_cons (c := ',') (by decide) _

theorem ends_spellMembers_append (depth outer : Nat) (members : List (Option String × Json))
    (rest : List Char) :
    Numeral.Ends (spellMembers layout depth members ++
      (layout.line outer ++ (Token.closeObject.spell ++ rest))) := by
  cases members with
  | nil => exact ends_blanks_append (hlayout.line outer) (Numeral.ends_cons (by decide) rest)
  | cons member members => exact Numeral.ends_cons (c := ',') (by decide) _

-- The same recursion. Only a numeral cares for what follows, and inside another value that is a comma,
-- a blank or a closing bracket.
mutual

/-- The tokens of a written value, whatever ends it. -/
theorem ofText?_spell_append (value : Json) (hlegible : value.Legible) (depth : Nat)
    {rest : List Char} (hrest : Numeral.Ends rest) :
    Token.ofText? (spell layout depth value ++ rest) =
      (Token.ofText? rest).map (value.tokens ++ ·) := by
  match value with
  | .null | .bool _ | .number _ | .string _ =>
      rw [Legible, tokens, List.forall_mem_singleton] at hlegible
      rw [spell, tokens, Token.ofText?_spell_append _ hlegible (Token.endsBefore_of_ends hrest _)]
      rfl
  | .array [] =>
      rw [spell, tokens, List.append_assoc, Token.ofText?_spell_append .openArray nofun trivial,
        Token.ofText?_spell_append .closeArray nofun trivial, Option.map_map]
      rfl
  | .array (item :: items) =>
      rw [Legible, tokens, List.forall_mem_cons, List.forall_mem_append] at hlegible
      obtain ⟨-, hitem, hitems⟩ := hlegible
      have hends := ends_spellItems_append hlayout (depth + 1) depth items rest
      simp only [spell, List.append_assoc]
      rw [Token.ofText?_spell_append .openArray nofun trivial,
        Token.ofText?_blanks_append (hlayout.line _), ofText?_spell_append item hitem _ hends,
        ofText?_spellItems_append items hitems]
      simp only [tokens, Option.map_map, Function.comp_def, List.cons_append, List.append_assoc]
  | .object [] =>
      rw [spell, tokens, List.append_assoc, Token.ofText?_spell_append .openObject nofun trivial,
        Token.ofText?_spell_append .closeObject nofun trivial, Option.map_map]
      rfl
  | .object ((name, value) :: members) =>
      rw [Legible, tokens, List.forall_mem_cons, List.forall_mem_cons, List.forall_mem_cons,
        List.forall_mem_append] at hlegible
      obtain ⟨-, hname, -, hvalue, hmembers⟩ := hlegible
      have hends := ends_spellMembers_append hlayout (depth + 1) depth members rest
      simp only [spell, List.append_assoc]
      rw [Token.ofText?_spell_append .openObject nofun trivial,
        Token.ofText?_blanks_append (hlayout.line _), Token.ofText?_spell_append _ hname trivial,
        Token.ofText?_spell_append .colon nofun trivial, Token.ofText?_blanks_append hlayout.gap,
        ofText?_spell_append value hvalue _ hends, ofText?_spellMembers_append members hmembers]
      simp only [tokens, Option.map_map, Function.comp_def, List.cons_append, List.append_assoc]

theorem ofText?_spellItems_append (items : List Json)
    (hlegible : ∀ token ∈ itemTokens items, token.Legible) (depth outer : Nat) (rest : List Char) :
    Token.ofText? (spellItems layout depth items ++
        (layout.line outer ++ (Token.closeArray.spell ++ rest))) =
      (Token.ofText? rest).map (itemTokens items ++ ·) := by
  match items with
  | [] =>
      rw [spellItems, List.nil_append, Token.ofText?_blanks_append (hlayout.line _),
        Token.ofText?_spell_append .closeArray nofun trivial, itemTokens]
      rfl
  | item :: items =>
      rw [itemTokens, List.forall_mem_cons, List.forall_mem_append] at hlegible
      obtain ⟨-, hitem, hitems⟩ := hlegible
      have hends := ends_spellItems_append hlayout depth outer items rest
      simp only [spellItems, List.append_assoc]
      rw [Token.ofText?_spell_append .comma nofun trivial,
        Token.ofText?_blanks_append (hlayout.line _), ofText?_spell_append item hitem _ hends,
        ofText?_spellItems_append items hitems]
      simp only [itemTokens, Option.map_map, Function.comp_def, List.cons_append,
        List.append_assoc]

theorem ofText?_spellMembers_append (members : List (Option String × Json))
    (hlegible : ∀ token ∈ memberTokens members, token.Legible) (depth outer : Nat)
    (rest : List Char) :
    Token.ofText? (spellMembers layout depth members ++
        (layout.line outer ++ (Token.closeObject.spell ++ rest))) =
      (Token.ofText? rest).map (memberTokens members ++ ·) := by
  match members with
  | [] =>
      rw [spellMembers, List.nil_append, Token.ofText?_blanks_append (hlayout.line _),
        Token.ofText?_spell_append .closeObject nofun trivial, memberTokens]
      rfl
  | (name, value) :: members =>
      rw [memberTokens, List.forall_mem_cons, List.forall_mem_cons, List.forall_mem_cons,
        List.forall_mem_append] at hlegible
      obtain ⟨-, hname, -, hvalue, hmembers⟩ := hlegible
      have hends := ends_spellMembers_append hlayout depth outer members rest
      simp only [spellMembers, List.append_assoc]
      rw [Token.ofText?_spell_append .comma nofun trivial,
        Token.ofText?_blanks_append (hlayout.line _), Token.ofText?_spell_append _ hname trivial,
        Token.ofText?_spell_append .colon nofun trivial, Token.ofText?_blanks_append hlayout.gap,
        ofText?_spell_append value hvalue _ hends, ofText?_spellMembers_append members hmembers]
      simp only [memberTokens, Option.map_map, Function.comp_def, List.cons_append,
        List.append_assoc]

end

/-- A written value is read back. -/
theorem ofText?_spell {value : Json} (hlegible : value.Legible) (depth : Nat) :
    ofText? (String.ofList (spell layout depth value)) = some value := by
  have htokens := ofText?_spell_append hlayout value hlegible depth Numeral.ends_nil
  rw [List.append_nil, Token.ofText?_nil, Option.map_some, List.append_nil] at htokens
  apply ofText?_of_tokens
  rw [String.toList_ofList, htokens]

end Text

theorem ofText?_compact {value : Json} (hlegible : value.Legible) :
    ofText? value.compact = some value :=
  ofText?_spell Layout.blank_compact hlegible 0

theorem ofText?_pretty {value : Json} (hlegible : value.Legible) :
    ofText? value.pretty = some value :=
  ofText?_spell Layout.blank_pretty hlegible 0

end DriverAlerts.Json
