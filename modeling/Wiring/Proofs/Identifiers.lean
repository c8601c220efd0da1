import Wiring.Proofs.Drafting
import Wiring.Proofs.Recording
import Wiring.Proofs.References

/-!
Names that no declaration gives and that can be written all the same. A name derived from an import
path is an identifier and no keyword, whatever the path is, and a number behind it changes nothing.
The name of a variable is one as well, unless it starts with the one letter whose lowercase form is
two characters.
-/

namespace Wiring

namespace Text

variable {c : Char} {n : Nat}

theorem isNumeric_of_isDigit (h : c.isDigit = true) : isNumeric c = true := by
  obtain ⟨hfirst, hlast⟩ := Char.isDigit_iff_toNat.mp h
  have hdigits : ∀ n ∈ List.range' 0x30 10, inRanges numericRanges n = true := by decide
  exact hdigits _ (List.mem_range'_1.mpr ⟨hfirst, Nat.lt_succ_of_le hlast⟩)

theorem isNamePart_of_isDigit (h : c.isDigit = true) : isNamePart c = true := by
  simp [isNamePart, isAlphanumeric, isNumeric_of_isDigit h]

theorem not_isLower_of_isDigit (h : c.isDigit = true) : c.isLower = false := by
  have hlast : c.toNat ≤ 0x39 := (Char.isDigit_iff_toNat.mp h).2
  rw [← Bool.not_eq_true]
  intro hlower
  have hfirst : 0x61 ≤ c.toNat :=
    UInt32.le_iff_toNat_le.mp (of_decide_eq_true (Bool.and_eq_true_iff.mp hlower).1)
  omega

section Lowercase

/-- An interval lies in one of ascending ranges. -/
def intervalInRanges : List (Nat × Nat) → Nat → Nat → Bool
  | [], _, _ => false
  | (first, last) :: rest, low, high =>
    first.ble low && (high.ble last || intervalInRanges rest low high)

theorem inRanges_of_interval {ranges : List (Nat × Nat)} {low high : Nat}
    (h : intervalInRanges ranges low high = true) (hlow : low ≤ n) (hhigh : n ≤ high) :
    inRanges ranges n = true := by
  induction ranges with
  | nil => cases h
  | cons range rest ih =>
      obtain ⟨first, last⟩ := range
      simp only [intervalInRanges, Bool.and_eq_true, Bool.or_eq_true, Nat.ble_eq] at h
      simp only [inRanges, Bool.and_eq_true, Bool.or_eq_true, decide_eq_true_eq]
      exact ⟨h.1.trans hlow, h.2.imp hhigh.trans ih⟩

/-- What all images have in common, the image of any code point has that has it itself. -/
theorem lowercaseIn_of_images {p : Nat → Prop} {runs : List LowercaseRun}
    (himages : ∀ run ∈ runs, ∀ k ≤ run.last - run.first, p (run.image + k)) (hn : p n) :
    p (lowercaseIn runs n) := by
  induction runs with
  | nil => exact hn
  | cons run rest ih =>
      rw [lowercaseIn]
      split
      case isTrue hcovered =>
        exact himages run List.mem_cons_self _ (Nat.sub_le_sub_right hcovered.2.1 _)
      case isFalse => exact ih fun later hlater => himages later (List.mem_cons_of_mem _ hlater)

/-- No surrogate is alphabetic. -/
theorem isValidChar_of_inRanges (h : inRanges alphabeticRanges n = true) : n.isValidChar := by
  have hvalid : ∀ range ∈ alphabeticRanges,
      range.2 < 0xd800 ∨ 0xdfff < range.1 ∧ range.2 < 0x110000 := by
    decide +kernel
  obtain ⟨range, hrange, hmem⟩ := List.mem_flatMap.mp (mem_codePoints_of_inRanges h)
  have hbounds := List.mem_range'_1.mp hmem
  have hrange' := hvalid range hrange
  unfold Nat.isValidChar
  omega

/-- Letters have letters as lowercase forms; only the capital I with a dot above has more than one
character. -/
theorem lowercase_of_isAlphabetic (h : isAlphabetic c = true) (hc : c ≠ '\u0130') :
    ∃ small, lowercase c = [small] ∧ isAlphabetic small = true := by
  -- Each run has its images in one range, so a look at the ends of the runs is enough.
  have himages : ∀ run ∈ lowercaseRuns,
      intervalInRanges alphabeticRanges run.image (run.image + (run.last - run.first)) = true := by
    decide +kernel
  have hsmall : inRanges alphabeticRanges (lowercaseIn lowercaseRuns c.toNat) = true :=
    lowercaseIn_of_images (p := fun n => inRanges alphabeticRanges n = true)
      (fun run hrun k hk => inRanges_of_interval (himages run hrun) (Nat.le_add_right _ _)
        (Nat.add_le_add_left hk _)) h
  refine ⟨Char.ofNat (lowercaseIn lowercaseRuns c.toNat), if_neg fun heq => hc ?_, ?_⟩
  · exact Char.toNat_inj.mp heq
  · rw [isAlphabetic, Char.ofNat, dif_pos (isValidChar_of_inRanges hsmall)]
    exact hsmall

end Lowercase

end Text

section Identifiers

variable {name more : List Char} {c : Char}

theorem isIdentifier_append (hne : name ≠ []) :
    isIdentifier (name ++ more) = (isIdentifier name && more.all Text.isNamePart) := by
  obtain ⟨first, rest, rfl⟩ := List.exists_cons_of_ne_nil hne
  rw [List.cons_append, isIdentifier, isIdentifier, List.all_append, Bool.and_assoc]
  rfl

/-- In lowercase the first letter of an identifier is an identifier, with one exception. -/
theorem isIdentifier_lowercase_iff (h : Text.isAlphabetic c = true ∨ c = '_') :
    isIdentifier (Text.lowercase c) = true ↔ c ≠ '\u0130' := by
  by_cases hc : c = '\u0130'
  · subst hc
    decide +kernel
  · refine iff_of_true ?_ hc
    rcases h with hletter | rfl
    · obtain ⟨small, hsmall, hletter'⟩ := Text.lowercase_of_isAlphabetic hletter hc
      simp [hsmall, isIdentifier, hletter']
    · decide +kernel

end Identifiers

namespace Naming

variable {base name : String} {cs more : List Char} {c : Char}

/-- A name with a decimal number behind it, or with nothing. -/
def Suffixed (base name : String) : Prop :=
  ∃ digits : List Char, digits.all Char.isDigit = true ∧ name.toList = base.toList ++ digits

theorem suffixed_candidate (base : String) (i : Nat) : Suffixed base (candidate base i) := by
  cases i with
  | zero => exact ⟨[], rfl, by rw [candidate_zero, List.append_nil]⟩
  | succ i =>
      refine ⟨Nat.toDigits 10 (i + 2), List.all_eq_true.mpr fun c hc => ?_, ?_⟩
      · exact Nat.isDigit_of_mem_toDigits (by decide) (by decide) hc
      · rw [candidate_succ, String.toList_append, Nat.toList_repr]

theorem suffixed_firstFree (base : String) (taken : List String) :
    Suffixed base (firstFree base taken) := by
  obtain ⟨i, hi⟩ := exists_candidate base taken
  rw [hi]
  exact suffixed_candidate base i

theorem isNamePart_of_digits (h : cs.all Char.isDigit = true) : cs.all Text.isNamePart = true :=
  List.all_eq_true.mpr fun c hc => Text.isNamePart_of_isDigit (List.all_eq_true.mp h c hc)

section Keywords

/-- Keywords are words of small letters. -/
theorem isKeyword_eq_false (hc : c ∈ name.toList) (hlower : c.isLower = false) :
    isKeyword name = false := by
  have hsmall : (keywords.all fun keyword => keyword.toList.all Char.isLower) = true := by
    decide +kernel
  rw [isKeyword, ← Bool.not_eq_true, List.contains_iff_mem]
  intro hmem
  rw [List.all_eq_true.mp (List.all_eq_true.mp hsmall name hmem) c hc] at hlower
  cases hlower

theorem Suffixed.isKeyword_eq_false (h : Suffixed base name) (hbase : isKeyword base = false) :
    isKeyword name = false := by
  obtain ⟨digits, hdigits, hname⟩ := h
  cases digits with
  | nil =>
      rw [List.append_nil, String.toList_inj] at hname
      rwa [hname]
  | cons digit digits =>
      have hmem : digit ∈ name.toList := by simp [hname]
      exact Naming.isKeyword_eq_false hmem
        (Text.not_isLower_of_isDigit (List.all_eq_true.mp hdigits digit List.mem_cons_self))

theorem isKeyword_append {ending : String} (hc : c ∈ ending.toList) (hlower : c.isLower = false)
    (name : String) : isKeyword (name ++ ending) = false := by
  refine isKeyword_eq_false ?_ hlower
  rw [String.toList_append]
  exact List.mem_append_right _ hc

/-- With an underscore behind it a keyword is none. -/
theorem isKeyword_escaped (name : String) :
    isKeyword (if isKeyword name = true then name ++ "_" else name) = false := by
  split
  case isTrue => exact isKeyword_append (c := '_') (by decide +kernel) (by decide) name
  case isFalse hfree => exact Bool.eq_false_iff.mpr hfree

end Keywords

section Usable

/-- An underscore or a letter that is no number, and then letters, numbers and underscores. -/
structure Word (cs : List Char) : Prop where
  start : ∃ first, cs.head? = some first ∧
    (first = '_' ∨ Text.isAlphabetic first = true ∧ Text.isNumeric first = false)
  parts : cs.all Text.isNamePart = true

/-- A name that can be written wherever an identifier can. -/
structure Usable (name : String) : Prop where
  word : Word name.toList
  unreserved : isKeyword name = false

theorem Word.append (h : Word cs) (hmore : more.all Text.isNamePart = true) :
    Word (cs ++ more) where
  start := by
    obtain ⟨first, hfirst, hletter⟩ := h.start
    exact ⟨first, by rw [List.head?_append, hfirst]; rfl, hletter⟩
  parts := by rw [List.all_append, h.parts, hmore]; rfl

theorem Usable.suffixed (h : Usable base) (hname : Suffixed base name) : Usable name := by
  refine ⟨?_, hname.isKeyword_eq_false h.unreserved⟩
  obtain ⟨digits, hdigits, heq⟩ := hname
  rw [heq]
  exact h.word.append (isNamePart_of_digits hdigits)

theorem Word.usable (h : Word cs) : Usable
    (if isKeyword (String.ofList cs) = true then String.ofList cs ++ "_" else String.ofList cs) := by
  refine ⟨?_, isKeyword_escaped _⟩
  split
  case isTrue =>
    rw [String.toList_append, String.toList_ofList]
    exact h.append (by decide +kernel)
  case isFalse => rwa [String.toList_ofList]

/-- A number at the start is no letter of its own, but an underscore may stand before it. -/
theorem word_of_kept {first : Char} {rest : List Char}
    (hkept : (first :: rest).all Text.isNamePart = true) :
    Word (if Text.isNumeric first = true then '_' :: first :: rest else first :: rest) := by
  split
  case isTrue => exact ⟨⟨'_', rfl, Or.inl rfl⟩, by rw [List.all_cons, hkept]; rfl⟩
  case isFalse hnumeric =>
    rw [Bool.not_eq_true] at hnumeric
    refine ⟨⟨first, rfl, ?_⟩, hkept⟩
    have hfirst := List.all_eq_true.mp hkept first List.mem_cons_self
    rw [Text.isNamePart, Text.isAlphanumeric, hnumeric, Bool.or_false, Bool.or_eq_true,
      beq_iff_eq] at hfirst
    exact hfirst.symm.imp_right fun hletter => ⟨hletter, hnumeric⟩

theorem usable_sanitize (text : List Char) : Usable (sanitize text) := by
  unfold sanitize
  split
  case h_1 => exact ⟨⟨⟨'p', by decide +kernel⟩, by decide +kernel⟩, by decide +kernel⟩
  case h_2 first rest hfilter =>
    refine (word_of_kept (List.all_eq_true.mpr fun c hc => ?_)).usable
    rw [← hfilter] at hc
    exact List.of_mem_filter hc

/-- Nothing is left to do for a name that is usable. -/
theorem Usable.sanitize_eq (h : Usable name) : sanitize name.toList = name := by
  have hfilter : name.toList.filter (fun c => Text.isAlphanumeric c || c == '_') = name.toList :=
    List.filter_eq_self.mpr (List.all_eq_true.mp h.word.parts)
  obtain ⟨first, hfirst, hletter⟩ := h.word.start
  obtain ⟨rest, hcons⟩ := List.head?_eq_some_iff.mp hfirst
  have hnumeric : Text.isNumeric first = false := by
    rcases hletter with rfl | ⟨-, hnumeric⟩
    · decide +kernel
    · exact hnumeric
  have hname : String.ofList (first :: rest) = name := by rw [← hcons, String.ofList_toList]
  rw [sanitize, hfilter, hcons]
  simp [hnumeric, hname, h.unreserved]

/-- The usable names are the ones that are not changed. -/
theorem usable_iff : Usable name ↔ sanitize name.toList = name :=
  ⟨Usable.sanitize_eq, fun h => h ▸ usable_sanitize name.toList⟩

end Usable

end Naming

namespace Imports

variable {target qualifier : String} {steps : List Step} {mention other : Mention}

theorem history_use (target : String) (steps : List Step) (mention : Mention) :
    history target (steps ++ [.use mention]) =
      ⟨(history target steps).target, (history target steps).mentions ++ [mention]⟩ := by
  rw [history, List.foldl_concat]
  rfl

theorem mem_of_mem_history (h : other ∈ (history target steps).mentions) : .use other ∈ steps := by
  induction steps using List.reverseRecOn with
  | nil => cases h
  | append_singleton steps last ih =>
      cases last with
      | reset target =>
          rw [history, List.foldl_concat] at h
          cases h
      | use mention =>
          rw [history_use] at h
          rcases List.mem_append.mp h with hearlier | hlast
          · exact List.mem_append_left _ (ih hearlier)
          · rw [List.mem_singleton.mp hlast]
            exact List.mem_append_right _ List.mem_cons_self

/-- A package goes by a numbered variant of a name that was asked for it. -/
theorem exists_mention_of_use (h : ((run target steps).use mention).1 = some qualifier) :
    ∃ first, .use first ∈ steps ++ [.use mention] ∧ first.path = mention.path ∧
      ∃ i, qualifier = Naming.candidate first.package i := by
  have hanswer := History.answer_eq (congrArg History.mentions (history_use target steps mention))
  rw [history_use] at hanswer
  change ((history target steps).table.use mention).1 = _ at hanswer
  rw [← run_eq_table, h, eq_comm] at hanswer
  obtain ⟨entry, hentry, hsame⟩ :=
    (History.sound_table _).linked.named mention.path qualifier hanswer
  obtain ⟨before, first, later, hsplit, hpath, -, -, ⟨i, hname, -⟩, -⟩ :=
    (records_of_byQualifier hentry).introduced
  have hmem : first ∈ (history target (steps ++ [.use mention])).mentions := by
    rw [history_use, hsplit]
    exact List.mem_append_right _ List.mem_cons_self
  rw [((History.sound_table _).linked.imported qualifier entry hentry).1] at hname
  exact ⟨first, mem_of_mem_history hmem, hpath.trans hsame, i, hname⟩

/-- All mentions of a package ask for the name that its path suggests. -/
def Undeclared (steps : List Step) (path : String) : Prop :=
  ∀ mention, .use mention ∈ steps → mention.path = path →
    mention.package = Naming.packageName path

end Imports

namespace Naming

/-- Names that are derived from any text, from any import path with any number behind, or from the
paths of packages that declare no name are usable, and sanitizing them again changes nothing. -/
theorem usable_derived :
    (∀ text, Usable (sanitize text) ∧ sanitize (sanitize text).toList = sanitize text) ∧
    (∀ path name, Suffixed (packageName path) name → Usable name ∧ sanitize name.toList = name) ∧
    ∀ target steps mention name, ((Imports.run target steps).use mention).1 = some name →
      Imports.Undeclared (steps ++ [.use mention]) mention.path →
        Usable name ∧ sanitize name.toList = name := by
  have hpackage : ∀ path name, Suffixed (packageName path) name →
      Usable name ∧ sanitize name.toList = name := by
    intro path name hname
    have husable : Usable name := (usable_sanitize _).suffixed hname
    exact ⟨husable, usable_iff.mp husable⟩
  refine ⟨fun text => ?_, hpackage, fun target steps mention name hname hnone => ?_⟩
  · exact ⟨usable_sanitize text, usable_iff.mp (usable_sanitize text)⟩
  · obtain ⟨first, hfirst, hpath, i, rfl⟩ := Imports.exists_mention_of_use hname
    rw [hnone first hfirst hpath]
    exact hpackage mention.path _ (suffixed_candidate _ i)

end Naming

namespace Sample

open Naming

/-- The paths of two packages end in the same keyword. -/
def kinds : List Imports.Step :=
  [.use ⟨"app/type", "type_", none⟩]

theorem usable_kinds :
    ((Imports.run "app/web" kinds).use ⟨"lib/type", "type_", none⟩).1 = some "type_2" ∧
    Imports.Undeclared (kinds ++ [.use ⟨"lib/type", "type_", none⟩]) "lib/type" ∧
    (Usable "type_2" ∧ sanitize "type_2".toList = "type_2") ∧
    Suffixed (packageName "app/type") "type_10" ∧
    (Usable "type_10" ∧ sanitize "type_10".toList = "type_10") := by
  have hname : ((Imports.run "app/web" kinds).use ⟨"lib/type", "type_", none⟩).1 =
      some "type_2" := by
    decide +kernel
  have hderived : packageName "lib/type" = "type_" := by decide +kernel
  have hundeclared : Imports.Undeclared (kinds ++ [.use ⟨"lib/type", "type_", none⟩])
      "lib/type" := by
    intro mention hmention _
    rw [hderived]
    simp only [kinds, List.cons_append, List.nil_append, List.mem_cons, List.not_mem_nil, or_false,
      Imports.Step.use.injEq] at hmention
    rcases hmention with rfl | rfl <;> rfl
  have hsuffixed : Suffixed (packageName "app/type") "type_10" :=
    ⟨['1', '0'], by decide +kernel, by decide +kernel⟩
  obtain ⟨-, hpaths, haliases⟩ := usable_derived
  exact ⟨hname, hundeclared, haliases _ _ _ _ hname hundeclared, hsuffixed,
    hpaths _ _ hsuffixed⟩

end Sample

namespace Naming

variable {name package typeName : String} {cs more : List Char} {c : Char}

/-- What the name of a variable starts with, but for the case of the first letter. -/
def leading (package typeName : String) : String :=
  if package = "" then typeName else package

theorem toList_camelCase (hname : name.toList = c :: cs) :
    (camelCase name).toList = Text.lowercase c ++ cs := by
  simp [camelCase, hname]

theorem lowercase_ne_nil (c : Char) : Text.lowercase c ≠ [] := by
  unfold Text.lowercase
  split <;> exact List.cons_ne_nil _ _

theorem isKeyword_variableName (package typeName : String) :
    isKeyword (variableName package typeName) = false := by
  unfold variableName
  split
  case isTrue => exact isKeyword_append (c := 'V') (by decide +kernel) (by decide) _
  case isFalse => exact isKeyword_escaped _

/-- What stands behind the leading name can stand behind any name. -/
theorem exists_ending (package : String) (htype : isIdentifier typeName.toList = true) :
    ∃ ending : List Char, ending.all Text.isNamePart = true ∧
      (variableName package typeName).toList =
        (camelCase (leading package typeName)).toList ++ ending := by
  have hparts : typeName.toList.all Text.isNamePart = true :=
    List.all_eq_true.mpr fun c => isNamePart_of_isIdentifier htype
  unfold variableName leading
  split
  case isTrue => exact ⟨"Value".toList, by decide +kernel, String.toList_append⟩
  case isFalse =>
    simp only
    split
    case isTrue =>
      refine ⟨typeName.toList ++ ['_'], by rw [List.all_append, hparts]; rfl, ?_⟩
      rw [String.toList_append, String.toList_append, List.append_assoc]
      rfl
    case isFalse => exact ⟨typeName.toList, hparts, String.toList_append⟩

/-- An identifier stays one when its first letter is put in lowercase and more is put behind it, with
one exception. -/
theorem isIdentifier_camelCase_append_iff (hname : isIdentifier name.toList = true)
    (hmore : more.all Text.isNamePart = true) :
    isIdentifier ((camelCase name).toList ++ more) = true ↔ name.toList.head? ≠ some '\u0130' := by
  obtain ⟨first, rest, hcons, hfirst, -⟩ := isIdentifier_iff.mp hname
  have hrest : rest.all Text.isNamePart = true := by
    rw [hcons] at hname
    exact (Bool.and_eq_true_iff.mp hname).2
  rw [toList_camelCase hcons, List.append_assoc, isIdentifier_append (lowercase_ne_nil first),
    List.all_append, hrest, hmore, Bool.and_true, Bool.and_true, isIdentifier_lowercase_iff hfirst,
    hcons, List.head?_cons, ne_eq, ne_eq, Option.some_inj]

theorem isIdentifier_suffixed_iff (hpackage : package = "" ∨ isIdentifier package.toList = true)
    (htype : isIdentifier typeName.toList = true)
    (hname : Suffixed (variableName package typeName) name) :
    isIdentifier name.toList = true ↔
      (leading package typeName).toList.head? ≠ some '\u0130' := by
  have hleading : isIdentifier (leading package typeName).toList = true := by
    unfold leading
    split
    case isTrue => exact htype
    case isFalse hne => exact hpackage.resolve_left hne
  obtain ⟨ending, hending, hvariable⟩ := exists_ending package htype
  obtain ⟨digits, hdigits, heq⟩ := hname
  rw [heq, hvariable, List.append_assoc]
  refine isIdentifier_camelCase_append_iff hleading ?_
  rw [List.all_append, hending, isNamePart_of_digits hdigits]
  rfl

/-- The name of a variable is no keyword, and it is an identifier unless the letter that it has in
lowercase is the capital I with a dot above. So is each name that it gets with a number behind it. -/
theorem isIdentifier_variableName_iff (hpackage : package = "" ∨ isIdentifier package.toList = true)
    (htype : isIdentifier typeName.toList = true) :
    (∀ name, Suffixed (variableName package typeName) name → isKeyword name = false ∧
      (isIdentifier name.toList = true ↔
        (leading package typeName).toList.head? ≠ some '\u0130')) ∧
    ∀ draft : Draft, isKeyword (draft.freshName (variableName package typeName)) = false ∧
      (isIdentifier (draft.freshName (variableName package typeName)).toList = true ↔
        (leading package typeName).toList.head? ≠ some '\u0130') := by
  have hall : ∀ name, Suffixed (variableName package typeName) name → isKeyword name = false ∧
      (isIdentifier name.toList = true ↔
        (leading package typeName).toList.head? ≠ some '\u0130') := by
    intro name hname
    have hkeyword := hname.isKeyword_eq_false (isKeyword_variableName package typeName)
    exact ⟨hkeyword, isIdentifier_suffixed_iff hpackage htype hname⟩
  exact ⟨hall, fun draft => hall _ (suffixed_firstFree _ _)⟩

end Naming

namespace Sample

open Naming

/-- The variable of the type `to` of a package `go` would be a keyword. -/
theorem isIdentifier_variable_goto : isIdentifier "go".toList = true ∧
    isIdentifier "to".toList = true ∧ variableName "go" "to" = "goto_" ∧
    ∀ name, Suffixed "goto_" name → isKeyword name = false ∧ isIdentifier name.toList = true := by
  have hvariable : variableName "go" "to" = "goto_" := by decide +kernel
  have hpackage : isIdentifier "go".toList = true := by decide +kernel
  have htype : isIdentifier "to".toList = true := by decide +kernel
  have hwritten := (isIdentifier_variableName_iff (Or.inr hpackage) htype).1
  rw [hvariable] at hwritten
  refine ⟨hpackage, htype, hvariable, fun name hname => ?_⟩
  exact (hwritten name hname).imp_right fun hiff => hiff.mpr (by decide +kernel)

/-- The dot above the letter is left alone in front of the rest, and it is no part of a name. -/
theorem not_isIdentifier_variable_istanbul : packageName "app/\u0130stanbul" = "\u0130stanbul" ∧
    isIdentifier "\u0130stanbul".toList = true ∧ isIdentifier "Conn".toList = true ∧
    variableName "\u0130stanbul" "Conn" = "i\u0307stanbulConn" ∧
    isIdentifier (variableName "\u0130stanbul" "Conn").toList = false := by
  decide +kernel

end Sample

end Wiring
