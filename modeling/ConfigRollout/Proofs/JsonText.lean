import ConfigRollout.Data.Json.Render

/-!
# Compact JSON text is unambiguous

The compact text of a value built from objects and strings gives the value back: two such
values with one text are equal. For the canonical hash source this means the text that is
digested determines the source.

The argument is that of a prefix code. A written character is read back by `unescape`
(`unescape_escapeChar`), so a quoted string, followed by anything, gives back the string and
what follows (`quote_append_inj`). A class of values whose texts form a prefix code
(`PrefixCode`) gives one again as the member values of objects (`PrefixCode.obj`), because a
member's text is followed by a comma or by the closing brace and a name starts with a quote.
Strings form a prefix code (`prefixCode_str`), hence so do objects of strings, objects of those,
and so on; and a prefix code renders injectively (`PrefixCode.render_inj`).
-/

set_option autoImplicit false

namespace ConfigRollout.Json

/-- The number of a lower-case hexadecimal digit. -/
def hexValue (c : Char) : Nat :=
  if c.toNat < 58 then c.toNat - 48 else c.toNat - 87

/-- A hexadecimal digit reads back as its value. -/
theorem hexValue_hexDigit : ∀ n, n < 16 → hexValue (hexDigit n) = n := by
  decide

/-- Reads one written character back: an escape, or a character that stands as itself. -/
def unescape : List Char → Option (Char × List Char)
  | '\\' :: '"' :: r => some ('"', r)
  | '\\' :: '\\' :: r => some ('\\', r)
  | '\\' :: 'n' :: r => some ('\n', r)
  | '\\' :: 'r' :: r => some ('\r', r)
  | '\\' :: 't' :: r => some ('\t', r)
  | '\\' :: 'b' :: r => some ('\x08', r)
  | '\\' :: 'f' :: r => some ('\x0c', r)
  | '\\' :: 'u' :: '0' :: '0' :: h :: l :: r => some (Char.ofNat (hexValue h * 16 + hexValue l), r)
  | c :: r => some (c, r)
  | [] => none

/-- A character that is written as itself is read back as itself. -/
theorem unescape_of_ne {c : Char} (hc : c ≠ '\\') (r : List Char) : unescape (c :: r) = some (c, r) := by
  rw [unescape.eq_9]
  all_goals intros; simp_all

/-- A control character written as `\u00XX` is read back from its two hexadecimal digits. -/
theorem unescape_control {c : Char} (hc : c.toNat < 0x20) (r : List Char) :
    unescape (['\\', 'u', '0', '0', hexDigit (c.toNat / 16), hexDigit (c.toNat % 16)] ++ r) = some (c, r) := by
  have hhi : hexValue (hexDigit (c.toNat / 16)) = c.toNat / 16 := hexValue_hexDigit _ (by omega)
  have hlo : hexValue (hexDigit (c.toNat % 16)) = c.toNat % 16 := hexValue_hexDigit _ (Nat.mod_lt _ (by decide))
  have hnum : c.toNat / 16 * 16 + c.toNat % 16 = c.toNat := by omega
  simp only [List.cons_append, List.nil_append, unescape, hhi, hlo, hnum, Char.ofNat_toNat]

/-- Every written character is read back, whatever follows it. -/
theorem unescape_escapeChar (c : Char) (r : List Char) : unescape (escapeChar c ++ r) = some (c, r) := by
  unfold escapeChar
  -- the seven short escapes: each is read back by its own case of the reader
  repeat (split; next => subst_vars; rfl)
  split
  · exact unescape_control ‹_› r
  · -- a character that stands as itself is no backslash
    exact unescape_of_ne ‹¬c = '\\'› r

/-- The escaped text of a character, followed by anything, gives back the character and the rest. -/
theorem escapeChar_append_inj {c c' : Char} {r r' : List Char} (h : escapeChar c ++ r = escapeChar c' ++ r') :
    c = c' ∧ r = r' := by
  have hu := congrArg unescape h
  rw [unescape_escapeChar, unescape_escapeChar] at hu
  simpa using hu

/-- No written character starts with a bare quote. -/
theorem escapeChar_append_ne_quote (c : Char) (r r' : List Char) : escapeChar c ++ r ≠ '"' :: r' := by
  intro h
  have hu := congrArg unescape h
  rw [unescape_escapeChar, unescape_of_ne (by decide)] at hu
  obtain ⟨rfl, rfl⟩ : c = '"' ∧ r = r' := by simpa using hu
  simp [escapeChar] at h

/-- The written characters of a string, followed by the closing quote and anything, give back
the string and what follows. -/
theorem escaped_append_inj :
    ∀ {l l' r r' : List Char}, l.flatMap escapeChar ++ '"' :: r = l'.flatMap escapeChar ++ '"' :: r' →
      l = l' ∧ r = r'
  | [], [], _, _, h => ⟨rfl, by simpa using h⟩
  | [], c' :: _, _, _, h => by
      rw [List.flatMap_cons, List.append_assoc] at h
      exact absurd h.symm (escapeChar_append_ne_quote c' _ _)
  | c :: _, [], _, _, h => by
      rw [List.flatMap_cons, List.append_assoc] at h
      exact absurd h (escapeChar_append_ne_quote c _ _)
  | c :: l, c' :: l', _, _, h => by
      rw [List.flatMap_cons, List.flatMap_cons, List.append_assoc, List.append_assoc] at h
      obtain ⟨rfl, hrest⟩ := escapeChar_append_inj h
      obtain ⟨rfl, hr⟩ := escaped_append_inj hrest
      exact ⟨rfl, hr⟩

/-- A quoted string, followed by anything, gives back the string and what follows. -/
theorem quote_append_inj {s s' : String} {r r' : List Char} (h : quote s ++ r = quote s' ++ r') :
    s = s' ∧ r = r' := by
  simp only [quote, List.cons_append, List.append_assoc, List.cons.injEq, true_and] at h
  obtain ⟨hs, hr⟩ := escaped_append_inj h
  exact ⟨String.toList_inj.mp hs, hr⟩

/-- A quoted string, followed by anything, does not start with a character other than a quote. -/
theorem quote_append_ne (s : String) (r : List Char) {c : Char} (hc : c ≠ '"') (r' : List Char) :
    quote s ++ r ≠ c :: r' := by
  intro h
  simp only [quote, List.cons_append, List.cons.injEq] at h
  exact hc h.1.symm

/-! ## Prefix codes of values -/

/-- A class of values whose texts form a prefix code: the text of a value of the class,
followed by anything, gives back the value and what follows. -/
def PrefixCode (P : Json → Prop) : Prop :=
  ∀ ⦃v v' : Json⦄ ⦃r r' : List Char⦄, P v → P v' → v.renderChars ++ r = v'.renderChars ++ r' → v = v' ∧ r = r'

/-- String values. -/
def IsStr (v : Json) : Prop :=
  ∃ s, v = .str s

/-- Objects whose member values are of a class. -/
def ObjOf (P : Json → Prop) (v : Json) : Prop :=
  ∃ fs, v = .obj fs ∧ ∀ f ∈ fs, P f.2

/-- The texts of JSON strings form a prefix code: no text of a string starts another. -/
theorem prefixCode_str : PrefixCode IsStr := by
  rintro _ _ r r' ⟨s, rfl⟩ ⟨s', rfl⟩ h
  simp only [renderChars] at h
  obtain ⟨rfl, hr⟩ := quote_append_inj h
  exact ⟨rfl, hr⟩

/-- The members of an object, one after the other. -/
theorem renderMembers_cons (k : String) (v : Json) (rest : List (String × Json)) :
    renderMembers ((k, v) :: rest) =
      quote k ++ ':' :: (v.renderChars ++ if rest = [] then [] else ',' :: renderMembers rest) := by
  cases rest with
  | nil => simp [renderMembers]
  | cons f rest => rw [renderMembers.eq_3 _ _ _ (List.cons_ne_nil f rest)]; simp

section Members

variable {P : Json → Prop}

/-- Members whose values form a prefix code, followed by the closing brace and anything, give
back the members and what follows. -/
theorem renderMembers_append_inj (hP : PrefixCode P) :
    ∀ {fs fs' : List (String × Json)} {r r' : List Char}, (∀ f ∈ fs, P f.2) → (∀ f ∈ fs', P f.2) →
      renderMembers fs ++ '}' :: r = renderMembers fs' ++ '}' :: r' → fs = fs' ∧ r = r'
  | [], [], _, _, _, _, h => ⟨rfl, by simpa [renderMembers] using h⟩
  | [], (k', v') :: rest', _, _, _, _, h => by
      rw [renderMembers_cons, List.append_assoc] at h
      exact absurd h.symm (quote_append_ne k' _ (by decide) _)
  | (k, v) :: rest, [], _, _, _, _, h => by
      rw [renderMembers_cons, List.append_assoc] at h
      exact absurd h (quote_append_ne k _ (by decide) _)
  | (k, v) :: rest, (k', v') :: rest', r, r', hfs, hfs', h => by
      rw [renderMembers_cons, renderMembers_cons, List.append_assoc, List.append_assoc] at h
      obtain ⟨rfl, hk⟩ := quote_append_inj h
      simp only [List.cons_append, List.cons.injEq, true_and, List.append_assoc] at hk
      -- the value is read back, then what follows it: a comma and more members, or the brace
      obtain ⟨rfl, hv⟩ := hP (hfs _ List.mem_cons_self) (hfs' _ List.mem_cons_self) hk
      have hrest : ∀ f ∈ rest, P f.2 := fun f hf => hfs f (List.mem_cons_of_mem _ hf)
      have hrest' : ∀ f ∈ rest', P f.2 := fun f hf => hfs' f (List.mem_cons_of_mem _ hf)
      cases rest with
      | nil =>
          cases rest' with
          | nil => exact ⟨rfl, by simpa using hv⟩
          | cons _ _ => simp at hv
      | cons f fs =>
          cases rest' with
          | nil => simp at hv
          | cons f' fs' =>
              simp only [reduceCtorEq, if_false, List.cons_append, List.cons.injEq, true_and] at hv
              obtain ⟨hfs, hr⟩ := renderMembers_append_inj hP hrest hrest' hv
              exact ⟨by rw [hfs], hr⟩

/-- Objects whose member values form a prefix code form one. -/
theorem PrefixCode.obj (hP : PrefixCode P) : PrefixCode (ObjOf P) := by
  rintro _ _ r r' ⟨fs, rfl, hfs⟩ ⟨fs', rfl, hfs'⟩ h
  simp only [renderChars, List.cons_append, List.append_assoc, List.cons.injEq, true_and] at h
  obtain ⟨rfl, hr⟩ := renderMembers_append_inj hP hfs hfs' h
  exact ⟨rfl, hr⟩

/-- Values of a prefix code with one text are equal. -/
theorem PrefixCode.render_inj (hP : PrefixCode P) {v v' : Json} (hv : P v) (hv' : P v')
    (h : render v = render v') : v = v' := by
  have hc : v.renderChars = v'.renderChars := by
    simpa [render] using congrArg String.toList h
  exact (hP hv hv' (by rw [hc] : v.renderChars ++ [] = v'.renderChars ++ [])).1

end Members

end ConfigRollout.Json
