import DriverAlerts.Text.Template
import Mathlib.Data.List.Basic
import Mathlib.Data.List.Infix
/-!
# Templates are rendered in one pass

A placeholder is an open brace, a name and a closing brace, and neither brace can be part of a name.
So two placeholders never overlap, a text has at most one at each place, and reading it from the
left meets them all: either one starts here and the reading goes on behind it, or the next character
is plain. Rendering is determined by these two cases. Which pieces a template has does not depend on
the values, so a value is never read again, and a placeholder can be rendered apart from what stands
around it.
-/

namespace DriverAlerts.Template

/-! ### Placeholders in a text -/

/-- At least one character, and only characters of names. -/
structure IsName (name : List Char) : Prop where
  ne_nil : name ≠ []
  chars : ∀ c ∈ name, isNameChar c

instance (name : List Char) : Decidable (IsName name) :=
  decidable_of_iff (name ≠ [] ∧ name.all isNameChar)
    ⟨fun h => ⟨h.1, List.all_eq_true.mp h.2⟩, fun h => ⟨h.ne_nil, List.all_eq_true.mpr h.chars⟩⟩

/-- A placeholder as it is written. -/
def token (name : List Char) : List Char :=
  '\x7b' :: (name ++ ['\x7d'])

/-- A placeholder stands at the start of a text. -/
def Opens (text : List Char) : Prop :=
  ∃ name rest, IsName name ∧ text = token name ++ rest

/-- A placeholder of this name stands somewhere in a text. -/
def Names (raw name : String) : Prop :=
  IsName name.toList ∧ token name.toList <:+: raw.toList

/-- What stands for a placeholder: the value of the first entry of its name, or else the
placeholder. -/
def substitute (values : List (String × String)) (name : List Char) : List Char :=
  match values.lookup (String.ofList name) with
  | some value => value.toList
  | none => token name

/-- What one reading of a text from the left puts out. -/
inductive Rendered (values : List (String × String)) : List Char → List Char → Prop where
  | nothing : Rendered values [] []
  | placeholder {name text output : List Char} (hname : IsName name)
      (hrest : Rendered values text output) :
      Rendered values (token name ++ text) (substitute values name ++ output)
  | char {c : Char} {text output : List Char} (hplain : ¬ Opens (c :: text))
      (hrest : Rendered values text output) : Rendered values (c :: text) (c :: output)

theorem isNameChar_open : isNameChar '\x7b' = false := by decide

theorem isNameChar_close : isNameChar '\x7d' = false := by decide

theorem open_not_mem {name : List Char} (hname : ∀ c ∈ name, isNameChar c) : '\x7b' ∉ name := by
  intro hmem
  have hopen := hname _ hmem
  rw [isNameChar_open] at hopen
  exact Bool.false_ne_true hopen

/-! ### The pieces of a text -/

theorem split_none_cons {c : Char} (hc : c ≠ '\x7b') (text : List Char) :
    split none (c :: text) = .char c :: split none text := by
  rw [split, if_neg hc]

theorem split_open (text : List Char) : split none ('\x7b' :: text) = split (some []) text := by
  rw [split, if_pos rfl]

theorem split_some_cons (held : List Char) (c : Char) (text : List Char) :
    split (some held) (c :: text) =
      if isNameChar c then split (some (c :: held)) text
      else if c = '\x7d' ∧ held ≠ [] then .placeholder held.reverse :: split none text
      else if c = '\x7b' then plain held ++ split (some []) text
      else plain held ++ .char c :: split none text := by
  rw [split]

theorem split_none_append {plain : List Char} (hplain : '\x7b' ∉ plain) (text : List Char) :
    split none (plain ++ text) = plain.map .char ++ split none text := by
  induction plain with
  | nil => rfl
  | cons c plain ih =>
      rw [List.mem_cons, not_or] at hplain
      rw [List.cons_append, split_none_cons (Ne.symm hplain.1), ih hplain.2, List.map_cons,
        List.cons_append]

/-- A name is held back as a whole. -/
theorem split_some_append {name : List Char} (hname : ∀ c ∈ name, isNameChar c)
    (held text : List Char) :
    split (some held) (name ++ text) = split (some (name.reverse ++ held)) text := by
  induction name generalizing held with
  | nil => rfl
  | cons c name ih =>
      rw [List.forall_mem_cons] at hname
      rw [List.cons_append, split_some_cons, if_pos hname.1, ih hname.2, List.reverse_cons,
        List.append_assoc, List.singleton_append]

/-- What is held back is plain when neither a name nor a placeholder goes on. -/
theorem split_some_of_stop {held text : List Char} (hname : ∀ c ∈ text.head?, isNameChar c = false)
    (hclose : '\x7d' ∈ text.head? → held = []) :
    split (some held) text = plain held ++ split none text := by
  cases text with
  | nil => rw [split, split, List.append_nil]
  | cons c text =>
      have hc : isNameChar c = false := hname c rfl
      have hplaceholder : ¬ (c = '\x7d' ∧ held ≠ []) := by
        rintro ⟨rfl, hheld⟩
        exact hheld (hclose rfl)
      rw [split_some_cons, hc, if_neg Bool.false_ne_true, if_neg hplaceholder]
      by_cases hopen : c = '\x7b'
      · rw [if_pos hopen, hopen, split_open]
      · rw [if_neg hopen, split_none_cons hopen]

theorem split_token {name : List Char} (hname : IsName name) (text : List Char) :
    split none (token name ++ text) = .placeholder name :: split none text := by
  have hheld : name.reverse ++ [] ≠ [] := by simp [hname.ne_nil]
  have hclose : split (some (name.reverse ++ [])) ('\x7d' :: text) =
      .placeholder (name.reverse ++ []).reverse :: split none text := by
    rw [split_some_cons, isNameChar_close, if_neg Bool.false_ne_true, if_pos ⟨rfl, hheld⟩]
  rw [token, List.cons_append, List.append_assoc, split_open, split_some_append hname.chars,
    List.singleton_append, hclose, List.append_nil, List.reverse_reverse]

theorem split_char {c : Char} {text : List Char} (hplain : ¬ Opens (c :: text)) :
    split none (c :: text) = .char c :: split none text := by
  by_cases hopen : c = '\x7b'
  · subst hopen
    -- The name that may follow the brace, and what follows the name.
    obtain ⟨name, rest, rfl, hname, hrest⟩ : ∃ name rest, text = name ++ rest ∧
        (∀ c ∈ name, isNameChar c) ∧ ∀ c ∈ rest.head?, isNameChar c = false := by
      refine ⟨text.takeWhile isNameChar, text.dropWhile isNameChar,
        List.takeWhile_append_dropWhile.symm,
        fun c hc => List.all_eq_true.mp List.all_takeWhile c hc, fun c hc => ?_⟩
      have hhead := List.head?_dropWhile_not isNameChar text
      rw [Option.mem_def] at hc
      rw [hc] at hhead
      exact hhead
    have hstop : '\x7d' ∈ rest.head? → name.reverse ++ [] = [] := by
      intro hclose
      by_contra hne
      obtain ⟨rest, rfl⟩ := List.head?_eq_some_iff.mp hclose
      refine hplain ⟨name, rest, ⟨by simpa using hne, hname⟩, ?_⟩
      rw [token, List.cons_append, List.append_assoc, List.singleton_append]
    rw [split_open, split_some_append hname, split_some_of_stop hrest hstop,
      split_none_append (open_not_mem hname), plain, List.append_nil, List.reverse_reverse,
      List.cons_append]
  · exact split_none_cons hopen text

/-- A text is read by placeholders and by the plain characters between them. -/
theorem text_induction {motive : List Char → Prop} (nothing : motive [])
    (placeholder : ∀ name text, IsName name → motive text → motive (token name ++ text))
    (char : ∀ c text, ¬ Opens (c :: text) → motive text → motive (c :: text)) (text : List Char) :
    motive text := by
  by_cases hopens : Opens text
  · obtain ⟨name, rest, hname, htext⟩ := hopens
    rw [htext]
    exact placeholder name rest hname (text_induction nothing placeholder char rest)
  · cases text with
    | nil => exact nothing
    | cons c text => exact char c text hopens (text_induction nothing placeholder char text)
termination_by text.length
decreasing_by
  · rw [htext, List.length_append, token, List.length_cons]
    omega
  · exact Nat.lt_succ_self text.length

/-- An open brace ends whatever stands before it. -/
theorem split_append_open (held : Option (List Char)) (before after : List Char) :
    split held (before ++ '\x7b' :: after) = split held before ++ split none ('\x7b' :: after) := by
  induction before generalizing held with
  | nil =>
      cases held with
      | none => rfl
      | some held =>
          have hopen : ∀ c ∈ ('\x7b' :: after).head?, isNameChar c = false := by
            intro c hc
            rw [← Option.some.inj hc, isNameChar_open]
          exact split_some_of_stop hopen fun hclose => absurd (Option.some.inj hclose) (by decide)
  | cons c before ih =>
      rw [List.cons_append]
      cases held with
      | none =>
          by_cases hopen : c = '\x7b'
          · rw [hopen, split_open, split_open, ih]
          · rw [split_none_cons hopen, split_none_cons hopen, ih, List.cons_append]
      | some held =>
          rw [split_some_cons, split_some_cons, ih, ih, ih]
          split
          · rfl
          · split
            · rw [List.cons_append]
            · split
              · rw [List.append_assoc]
              · rw [List.append_assoc, List.cons_append]

theorem split_token_between {name : List Char} (hname : IsName name) (before after : List Char) :
    split none (before ++ token name ++ after) =
      split none before ++ .placeholder name :: split none after := by
  have hopen : token name ++ after = '\x7b' :: (name ++ '\x7d' :: after) := by
    rw [token, List.cons_append, List.append_assoc, List.singleton_append]
  rw [List.append_assoc, hopen, split_append_open, ← hopen, split_token hname]

/-- The placeholders among the pieces are those that stand in the text. -/
theorem names_iff {raw name : String} :
    Names raw name ↔ .placeholder name.toList ∈ (Template.mk raw).pieces := by
  rw [Names, pieces]
  constructor
  · rintro ⟨hname, before, after, hraw⟩
    rw [← hraw, split_token_between hname]
    exact List.mem_append_right _ List.mem_cons_self
  · have htext : ∀ text, .placeholder name.toList ∈ split none text →
        IsName name.toList ∧ token name.toList <:+: text := by
      intro text hmem
      induction text using text_induction with
      | nothing => exact nomatch hmem
      | placeholder other text hother ih =>
          rw [split_token hother, List.mem_cons, Piece.placeholder.injEq] at hmem
          rcases hmem with rfl | hmem
          · exact ⟨hother, (List.prefix_append _ text).isInfix⟩
          · exact ⟨(ih hmem).1, (ih hmem).2.trans (List.suffix_append _ text).isInfix⟩
      | char c text hplain ih =>
          rw [split_char hplain, List.mem_cons] at hmem
          obtain ⟨hname, htoken⟩ := ih (hmem.resolve_left nofun)
          exact ⟨hname, htoken.trans (List.suffix_cons c text).isInfix⟩
    exact htext raw.toList

/-! ### What is put out -/

theorem toList_render (template : Template) (values : List (String × String)) :
    (template.render values).toList =
      (split none template.raw.toList).flatMap (Piece.render values) := by
  rw [render, String.toList_ofList, pieces]

theorem rendered_iff {values : List (String × String)} {text output : List Char} :
    Rendered values text output ↔ output = (split none text).flatMap (Piece.render values) := by
  constructor
  · intro h
    induction h with
    | nothing => rfl
    | placeholder hname _ ih =>
        rw [split_token hname, List.flatMap_cons, ih]
        rfl
    | char hplain _ ih =>
        rw [split_char hplain, List.flatMap_cons, ih]
        rfl
  · rintro rfl
    induction text using text_induction with
    | nothing => exact .nothing
    | placeholder name text hname ih =>
        rw [split_token hname, List.flatMap_cons]
        exact .placeholder hname ih
    | char c text hplain ih =>
        rw [split_char hplain, List.flatMap_cons]
        exact .char hplain ih

/-- Only the values of names that stand in the text matter. -/
theorem render_congr {raw : String} {values values' : List (String × String)}
    (h : ∀ name, Names raw name → values.lookup name = values'.lookup name) :
    (Template.mk raw).render values = (Template.mk raw).render values' := by
  have hpieces : ∀ piece ∈ (Template.mk raw).pieces,
      piece.render values = piece.render values' := by
    intro piece hpiece
    cases piece with
    | char c => rfl
    | placeholder name =>
        have hname : Names raw (String.ofList name) := by
          rw [names_iff, String.toList_ofList]
          exact hpiece
        rw [Piece.render, Piece.render, h _ hname]
  rw [render, render, List.flatMap_congr hpieces]

theorem render_nil (raw : String) : (Template.mk raw).render [] = raw := by
  have htext : ∀ text, (split none text).flatMap (Piece.render []) = text := by
    intro text
    induction text using text_induction with
    | nothing => rfl
    | placeholder name text hname ih =>
        rw [split_token hname, List.flatMap_cons, ih]
        rfl
    | char c text hplain ih =>
        rw [split_char hplain, List.flatMap_cons, ih]
        rfl
  rw [render, pieces, htext, String.ofList_toList]

theorem render_of_no_names {raw : String} (h : ∀ name, ¬ Names raw name)
    (values : List (String × String)) : (Template.mk raw).render values = raw := by
  have hbare : (Template.mk raw).render values = (Template.mk raw).render [] :=
    render_congr fun name hname => absurd hname (h name)
  rw [hbare, render_nil]

/-- An entry has no part in the rendering if the text has no placeholder of its name, or if an
earlier entry has the name. -/
theorem render_drop_entry {raw : String} {earlier later : List (String × String)}
    {entry : String × String} (h : ¬ Names raw entry.1 ∨ entry.1 ∈ earlier.map Prod.fst) :
    (Template.mk raw).render (earlier ++ entry :: later) =
      (Template.mk raw).render (earlier ++ later) := by
  apply render_congr
  intro name hname
  rw [List.lookup_append, List.lookup_append]
  by_cases hentry : name = entry.1
  · subst hentry
    have hearlier : (earlier.lookup entry.1).isSome := by
      obtain ⟨other, hother, hkey⟩ := List.mem_map.mp (h.resolve_left (not_not_intro hname))
      exact List.lookup_isSome_iff.mpr ⟨other, hother, beq_iff_eq.mpr hkey.symm⟩
    obtain ⟨value, hvalue⟩ := Option.isSome_iff_exists.mp hearlier
    rw [hvalue, Option.some_or, Option.some_or]
  · rw [List.lookup_cons, beq_false_of_ne hentry]

theorem render_between {name : String} (hname : IsName name.toList) (before after : String)
    (values : List (String × String)) :
    (Template.mk (before ++ "\x7b" ++ name ++ "\x7d" ++ after)).render values =
      (Template.mk before).render values ++ String.ofList (substitute values name.toList) ++
        (Template.mk after).render values := by
  have htext : (before ++ "\x7b" ++ name ++ "\x7d" ++ after).toList =
      before.toList ++ token name.toList ++ after.toList := by
    simp only [String.toList_append, token, List.append_assoc, List.cons_append]
    rfl
  apply String.toList_injective
  rw [toList_render, htext, split_token_between hname, List.flatMap_append, List.flatMap_cons,
    String.toList_append, String.toList_append, toList_render, toList_render, String.toList_ofList,
    List.append_assoc]
  rfl

/-- **A template is rendered in one reading from the left.** What is put out is determined by the
text: at a placeholder it is the value of the first entry of its name, or the placeholder if there
is none, and anywhere else it is the next character. So without entries nothing changes, and neither
does a text without placeholders, whatever braces it has. An entry that names no placeholder of the
text or comes after one of its name changes nothing. And wherever a placeholder stands, it is
rendered apart from what is before and behind it, and its value is put out as it is. -/
theorem render_is_one_pass (raw : String) (values : List (String × String)) :
    (∀ output, Rendered values raw.toList output ↔
        output = ((Template.mk raw).render values).toList) ∧
      (Template.mk raw).render [] = raw ∧
      ((∀ name, ¬ Names raw name) → (Template.mk raw).render values = raw) ∧
      (∀ earlier entry later, ¬ Names raw entry.1 ∨ entry.1 ∈ earlier.map Prod.fst →
        (Template.mk raw).render (earlier ++ entry :: later) =
          (Template.mk raw).render (earlier ++ later)) ∧
      ∀ before name after, raw = before ++ "\x7b" ++ name ++ "\x7d" ++ after → IsName name.toList →
        (Template.mk raw).render values =
          (Template.mk before).render values ++ String.ofList (substitute values name.toList) ++
            (Template.mk after).render values := by
  refine ⟨fun output => ?_, render_nil raw, fun h => render_of_no_names h values,
    fun _ _ _ h => render_drop_entry h, ?_⟩
  · rw [rendered_iff, toList_render]
  · rintro before name after rfl hname
    exact render_between hname before after values

/-- A placeholder in braces of its own, braces around nothing and around what is no name, and a
brace and a letter in front of another placeholder. -/
def nestedBraces : String :=
  "\x7b\x7bspeed\x7d\x7d \x7b\x7d \x7bX\x7d \x7ba\x7bgas\x7d"

theorem render_of_nestedBraces :
    Rendered [("speed", "\x7bgas\x7d")] nestedBraces.toList
        "\x7b\x7bgas\x7d\x7d \x7b\x7d \x7bX\x7d \x7ba\x7bgas\x7d".toList ∧
      (Template.mk "\x7b\x7d \x7bX\x7d").render [("X", "5")] = "\x7b\x7d \x7bX\x7d" ∧
      (Template.mk nestedBraces).render [("steer", "5")] = nestedBraces ∧
      (Template.mk nestedBraces).render [("speed", "\x7bgas\x7d"), ("speed", "5")] =
        (Template.mk nestedBraces).render [("speed", "\x7bgas\x7d")] ∧
      (Template.mk "\x7ba\x7bgas\x7d").render [("gas", "5")] =
        (Template.mk "\x7ba").render [("gas", "5")] ++ "5" ++
          (Template.mk "").render [("gas", "5")] := by
  obtain ⟨hpass, hbare, -, hentries, -⟩ :=
    render_is_one_pass nestedBraces [("speed", "\x7bgas\x7d")]
  obtain ⟨-, -, hplain, -, -⟩ := render_is_one_pass "\x7b\x7d \x7bX\x7d" [("X", "5")]
  obtain ⟨-, -, -, -, hbetween⟩ := render_is_one_pass "\x7ba\x7bgas\x7d" [("gas", "5")]
  refine ⟨(hpass _).mpr (by decide), hplain fun name hname => ?_, ?_, ?_,
    hbetween "\x7ba" "gas" "" (by decide) (by decide)⟩
  · have hpieces : (Template.mk "\x7b\x7d \x7bX\x7d").pieces =
        ['\x7b', '\x7d', ' ', '\x7b', 'X', '\x7d'].map .char := by decide
    rw [names_iff, hpieces] at hname
    exact absurd hname (by simp)
  · have hsteer : ¬ Names nestedBraces "steer" := by
      rw [names_iff]
      decide
    rw [← hbare]
    exact hentries [] ("steer", "5") [] (.inl hsteer)
  · exact hentries [("speed", "\x7bgas\x7d")] ("speed", "5") [] (.inr (by decide))

end DriverAlerts.Template
