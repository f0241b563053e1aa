import Mathlib.Tactic.SplitIfs
import ConfigRollout.Data.Json.Parse
import ConfigRollout.Proofs.JsonText

/-!
# Reading compact JSON text back

The reader (`Json.parse`) undoes the writer (`Json.render`) on the values that the program
writes for digesting: objects, nested to any depth, whose leaves are strings. A written string
is read back character by character, each escape by the rule that wrote it
(`stringBody_escapeChar`): the short escapes, `\u00XX` for the other control characters (a
code below the surrogates, so never the start of a pair), and every other character as itself.
An object is read back member by member, each value by the rule of its class.

Values are read with a fuel that bounds the nesting and the members; the text of a value is
longer than the fuel its reading uses, so the fuel `parse` starts with, the length of the text
plus one, always suffices (`ReadsBack`).

Main statement: `parse_render`, for the objects of objects of strings that a class reads back
(`readsBack_str`, `ReadsBack.obj`).
-/

set_option autoImplicit false

namespace ConfigRollout.Json

/-! ## Strings -/

/-- A character that needs no escape is read as itself. -/
theorem stringBody_plain {c : Char} (hq : c ≠ '"') (hb : c ≠ '\\') (hc : ¬ c.toNat < 0x20)
    (r acc : List Char) : stringBody (c :: r) acc = stringBody r (c :: acc) := by
  rw [stringBody.eq_14, if_neg hc]
  -- the other patterns all start with a quote or a backslash
  all_goals
    intros
    contradiction

/-- A `\u` escape of four bad digits is refused, whether or not another escape follows. -/
theorem stringBody_unicode_none {a b c d : Char} (hhex : hex4? a b c d = none) (r acc : List Char) :
    stringBody ('\\' :: 'u' :: a :: b :: c :: d :: r) acc = none := by
  by_cases hr : ∃ e f g h r', r = '\\' :: 'u' :: e :: f :: g :: h :: r'
  · obtain ⟨e, f, g, h, r', rfl⟩ := hr
    rw [stringBody.eq_11, hhex]
  · rw [stringBody.eq_12 _ _ _ _ _ _ (fun e f g h r' he => hr ⟨e, f, g, h, r', he⟩), hhex]

/-- A `\u` escape of a code below the surrogates reads as that character, whatever follows. -/
theorem stringBody_unicode {a b c d : Char} {hi : Nat} (hhex : hex4? a b c d = some hi) (hlow : hi < 0xD800)
    (r acc : List Char) :
    stringBody ('\\' :: 'u' :: a :: b :: c :: d :: r) acc = stringBody r (Char.ofNat hi :: acc) := by
  by_cases hr : ∃ e f g h r', r = '\\' :: 'u' :: e :: f :: g :: h :: r'
  · -- another escape follows: the reader looks for a surrogate pair, and finds none
    obtain ⟨e, f, g, h, r', rfl⟩ := hr
    rw [stringBody.eq_11, hhex]
    rcases hlo : hex4? e f g h with _ | lo
    · rw [stringBody_unicode_none hlo]
    · have hhigh : ¬ (0xD800 ≤ hi ∧ hi < 0xDC00) := by omega
      have hlone : ¬ (0xDC00 ≤ hi ∧ hi < 0xE000) := by omega
      simp only [hhigh, hlone, if_false]
  · have hsur : ¬ (0xD800 ≤ hi ∧ hi < 0xE000) := by omega
    rw [stringBody.eq_12 _ _ _ _ _ _ (fun e f g h r' he => hr ⟨e, f, g, h, r', he⟩), hhex]
    simp only [hsur, if_false]

/-- A hexadecimal digit reads back as its value. -/
theorem hexValue?_hexDigit : ∀ d, d < 16 → hexValue? (hexDigit d) = some d := by
  decide

/-- The four hexadecimal digits written for a control character read back as its code. -/
theorem hex4?_control {n : Nat} (hn : n < 0x20) :
    hex4? '0' '0' (hexDigit (n / 16)) (hexDigit (n % 16)) = some n := by
  have hzero : hexValue? '0' = some 0 := by decide
  have hhigh := hexValue?_hexDigit (n / 16) (by omega)
  have hlow := hexValue?_hexDigit (n % 16) (by omega)
  simp only [hex4?, hzero, hhigh, hlow, Option.bind_eq_bind, Option.bind_some]
  congr 1
  omega

/-- Each written character reads back as itself. -/
theorem stringBody_escapeChar (c : Char) (r acc : List Char) :
    stringBody (escapeChar c ++ r) acc = stringBody r (c :: acc) := by
  unfold escapeChar
  split_ifs with hq hb hn hr ht hbs hf hc
  · subst hq; rfl
  · subst hb; rfl
  · subst hn; rfl
  · subst hr; rfl
  · subst ht; rfl
  · subst hbs; rfl
  · subst hf; rfl
  · simp only [List.cons_append, List.nil_append]
    rw [stringBody_unicode (hex4?_control hc) (by omega), Char.ofNat_toNat]
  · simp only [List.cons_append, List.nil_append]
    exact stringBody_plain hq hb hc r acc

/-- The escaped text of characters, then a closing quote, reads back as the characters and the rest.
-/
theorem stringBody_escaped (cs rest acc : List Char) :
    stringBody (cs.flatMap escapeChar ++ '"' :: rest) acc = some (acc.reverse ++ cs, rest) := by
  induction cs generalizing acc with
  | nil => simp [stringBody]
  | cons c cs ih =>
      rw [List.flatMap_cons, List.append_assoc, stringBody_escapeChar, ih]
      simp

/-- A quoted string reads back as the string, with the rest of the text left over. -/
theorem value?_quote (s : String) (fuel : Nat) (rest : List Char) :
    value? (fuel + 1) (quote s ++ rest) = some (.str s, rest) := by
  have hq : quote s ++ rest = '"' :: (s.toList.flatMap escapeChar ++ '"' :: rest) := by
    simp [quote]
  rw [hq, value?]
  simp [isBlank, stringBody_escaped]

/-! ## Classes of values that read back -/

/-- A class of values that the reader reads back: from the text of a value of the class
followed by anything, with as much fuel as the text is long, it gives the value and what
follows. -/
def ReadsBack (P : Json → Prop) : Prop :=
  ∀ ⦃v : Json⦄ ⦃fuel : Nat⦄ (rest : List Char), P v → v.renderChars.length ≤ fuel →
    value? fuel (v.renderChars ++ rest) = some (v, rest)

/-- Every JSON string reads back from its text. -/
theorem readsBack_str : ReadsBack IsStr := by
  rintro _ fuel rest ⟨s, rfl⟩ hfuel
  obtain ⟨f, rfl⟩ : ∃ f, fuel = f + 1 := ⟨fuel - 1, by simp [renderChars, quote] at hfuel; omega⟩
  exact value?_quote s f rest

section Members

variable {P : Json → Prop}

/-- Members whose values read back, followed by the closing brace, read back, each member
costing one unit of fuel more than its value. -/
theorem members?_renderMembers (hP : ReadsBack P) :
    ∀ {fs : List (String × Json)} (acc : List (String × Json)) (rest : List Char) {fuel : Nat}, fs ≠ [] →
      (∀ f ∈ fs, P f.2) → (renderMembers fs).length + 1 ≤ fuel →
      members? fuel (renderMembers fs ++ '}' :: rest) acc = some (acc.reverse ++ fs, rest)
  | [], _, _, _, hne, _, _ => absurd rfl hne
  | (k, v) :: more, acc, rest, fuel, _, hfs, hfuel => by
      rw [renderMembers_cons] at hfuel ⊢
      obtain ⟨f, rfl⟩ : ∃ f, fuel = f + 1 := ⟨fuel - 1, by omega⟩
      have hq : quote k ++ ':' :: (v.renderChars ++ (if more = [] then [] else ',' :: renderMembers more)) ++
            '}' :: rest =
          '"' :: (k.toList.flatMap escapeChar ++ '"' :: ':' ::
            (v.renderChars ++ ((if more = [] then [] else ',' :: renderMembers more) ++ '}' :: rest))) := by
        simp [quote]
      -- the name, the colon, then the value by its class
      have hv : value? f (v.renderChars ++ ((if more = [] then [] else ',' :: renderMembers more) ++ '}' :: rest)) =
          some (v, (if more = [] then [] else ',' :: renderMembers more) ++ '}' :: rest) :=
        hP _ (hfs _ List.mem_cons_self) (by simp [quote] at hfuel; omega)
      rw [hq, members?]
      simp [isBlank, stringBody_escaped, hv]
      -- then the closing brace, or a comma and the further members
      cases more with
      | nil => simp [isBlank]
      | cons g gs =>
          have hmore : (renderMembers (g :: gs)).length + 1 ≤ f := by
            simp [quote] at hfuel
            omega
          have ih := members?_renderMembers hP ((k, v) :: acc) rest (List.cons_ne_nil g gs)
            (fun f hf => hfs f (List.mem_cons_of_mem _ hf)) hmore
          simp [isBlank, ih]

/-- Objects whose member values read back read back. -/
theorem ReadsBack.obj (hP : ReadsBack P) : ReadsBack (ObjOf P) := by
  rintro _ fuel rest ⟨fs, rfl, hfs⟩ hfuel
  simp only [renderChars, List.length_cons, List.length_append] at hfuel
  obtain ⟨f, rfl⟩ : ∃ f, fuel = f + 1 := ⟨fuel - 1, by omega⟩
  simp only [renderChars, List.cons_append, List.append_assoc, List.nil_append]
  rw [value?]
  cases fs with
  | nil => simp [isBlank, renderMembers]
  | cons g gs =>
      -- a member follows the brace, so the object is not empty
      have hm := members?_renderMembers hP [] rest (List.cons_ne_nil g gs) hfs (show _ ≤ f by simp at hfuel; omega)
      obtain ⟨k, v⟩ := g
      rw [renderMembers_cons] at hm ⊢
      simp only [quote, List.cons_append, List.append_assoc] at hm ⊢
      simp only [List.nil_append, List.reverse_nil] at hm
      simpa [isBlank] using hm

end Members

/-- The reader gives back a value of a class that reads back from its text. -/
theorem parse_render {P : Json → Prop} (hP : ReadsBack P) {v : Json} (hv : P v) : parse (render v) = some v := by
  have h := hP [] hv (Nat.le_succ _)
  rw [List.append_nil] at h
  simp [parse, render, String.toList_ofList, String.length_ofList, h]

end ConfigRollout.Json
