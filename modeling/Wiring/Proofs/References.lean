import Mathlib.Data.List.DropRight
import Wiring.Proofs.Failure
import Wiring.TypeRef

/-!
References that are written and read again. What is read has an identifier for a name and an import
path without quotes at its ends; each such reference is read back from what is written for it. So
nothing is lost in between, and references that are written alike are the same.
-/

namespace Wiring

namespace Text

variable {p : Char → Bool} {c sep q : Char} {cs before after : List Char}

section Trim

theorem trimWith_eq (p : Char → Bool) (cs : List Char) :
    trimWith p cs = (cs.dropWhile p).rdropWhile p :=
  rfl

/-- Neither end of a text is of a class. -/
structure Trimmed (p : Char → Bool) (cs : List Char) : Prop where
  head : ∀ c, cs.head? = some c → p c = false
  last : ∀ c, cs.getLast? = some c → p c = false

theorem trimmed_of_forall (h : ∀ c ∈ cs, p c = false) : Trimmed p cs where
  head c hhead := h c (List.mem_of_mem_head? hhead)
  last c hlast := h c (List.mem_of_getLast? hlast)

theorem trimmed_cons_append (hc : p c = false) (hne : after ≠ [])
    (h : ∀ c ∈ after, p c = false) : Trimmed p (c :: (before ++ after)) where
  head c' hhead := by
    cases hhead
    exact hc
  last c' hlast := by
    rw [← List.cons_append, List.getLast?_append_of_ne_nil _ hne] at hlast
    exact h c' (List.mem_of_getLast? hlast)

theorem trimmed_quote_iff :
    Trimmed (· == '"') cs ↔ cs.head? ≠ some '"' ∧ cs.getLast? ≠ some '"' := by
  constructor
  · intro h
    exact ⟨fun hhead => by simpa using h.head _ hhead, fun hlast => by simpa using h.last _ hlast⟩
  · rintro ⟨hhead, hlast⟩
    exact ⟨fun c hc => beq_eq_false_iff_ne.mpr fun heq => hhead (heq ▸ hc),
      fun c hc => beq_eq_false_iff_ne.mpr fun heq => hlast (heq ▸ hc)⟩

theorem Trimmed.dropWhile_eq (h : Trimmed p cs) : cs.dropWhile p = cs := by
  cases cs with
  | nil => rfl
  | cons c rest => rw [List.dropWhile_cons_of_neg (by simp [h.head c rfl])]

theorem Trimmed.rdropWhile_eq (h : Trimmed p cs) : cs.rdropWhile p = cs := by
  rw [List.rdropWhile_eq_self_iff]
  intro hne
  simp [h.last _ (List.getLast?_eq_some_getLast hne)]

theorem Trimmed.trimWith_eq (h : Trimmed p cs) : trimWith p cs = cs := by
  change (cs.dropWhile p).rdropWhile p = cs
  rw [h.dropWhile_eq, h.rdropWhile_eq]

/-- A character of the class around a text that has none at its ends. -/
theorem Trimmed.trimWith_wrap (h : Trimmed p cs) (hne : cs ≠ []) (hq : p q = true) :
    trimWith p (q :: (cs ++ [q])) = cs := by
  have hstart : (cs ++ [q]).dropWhile p = cs ++ [q] := by
    obtain ⟨c, rest, rfl⟩ := List.exists_cons_of_ne_nil hne
    rw [List.cons_append, List.dropWhile_cons_of_neg (by simp [h.head c rfl])]
  change ((q :: (cs ++ [q])).dropWhile p).rdropWhile p = cs
  rw [List.dropWhile_cons_of_pos hq, hstart, List.rdropWhile_concat_pos _ _ _ hq, h.rdropWhile_eq]

/-- What is left has no character of the class at its ends. -/
theorem trimmed_trimWith (p : Char → Bool) (cs : List Char) : Trimmed p (trimWith p cs) where
  head c hhead := by
    obtain ⟨rest, hprefix⟩ := List.rdropWhile_prefix p (cs.dropWhile p)
    have hfirst : (cs.dropWhile p).head? = some c := by
      rw [← hprefix, List.head?_append]
      exact Option.or_eq_some_iff.mpr (Or.inl hhead)
    have hnot := List.head?_dropWhile_not p cs
    rwa [hfirst] at hnot
  last c hlast := by
    rw [trimWith, List.getLast?_reverse] at hlast
    have hnot := List.head?_dropWhile_not p (cs.dropWhile p).reverse
    rwa [hlast] at hnot

theorem mem_of_trimWith (h : c ∈ trimWith p cs) : c ∈ cs :=
  (List.dropWhile_sublist p).subset ((List.rdropWhile_prefix p _).subset h)

/-- Only characters of the class are dropped. -/
theorem mem_trimWith_of_mem (hc : p c = false) (h : c ∈ cs) : c ∈ trimWith p cs := by
  have hdrop : ∀ {l : List Char}, c ∈ l → c ∈ l.dropWhile p := by
    intro l hmem
    have hsplit : c ∈ l.takeWhile p ++ l.dropWhile p := by
      rwa [List.takeWhile_append_dropWhile]
    rcases List.mem_append.mp hsplit with htaken | hleft
    · have htrue := List.mem_takeWhile_imp htaken
      rw [hc] at htrue
      cases htrue
    · exact hleft
  exact List.mem_reverse.mpr (hdrop (List.mem_reverse.mpr (hdrop h)))

end Trim

section Break

theorem breakLast_eq_none_iff : breakLast sep cs = none ↔ sep ∉ cs := by
  induction cs with
  | nil => simp [breakLast]
  | cons c cs ih =>
      rw [breakLast]
      cases hrest : breakLast sep cs with
      | none =>
          rw [hrest] at ih
          simp [ih.mp rfl, eq_comm]
      | some cut =>
          rw [hrest] at ih
          have hmem : sep ∈ cs := by simpa using ih
          simp [hmem]

/-- The last separator is the one with none after it. -/
theorem breakLast_append (h : sep ∉ after) :
    breakLast sep (before ++ sep :: after) = some (before, after) := by
  induction before with
  | nil => simp [breakLast, breakLast_eq_none_iff.mpr h]
  | cons c before ih => rw [List.cons_append, breakLast, ih]

theorem eq_append_of_breakLast (h : breakLast sep cs = some (before, after)) :
    cs = before ++ sep :: after ∧ sep ∉ after := by
  have hmem : sep ∈ cs := by
    by_contra hnot
    rw [breakLast_eq_none_iff.mpr hnot] at h
    cases h
  obtain ⟨start, rest, hsplit, hlast⟩ := List.eq_append_cons_of_mem (List.mem_reverse.mpr hmem)
  have hcs : cs = rest.reverse ++ sep :: start.reverse := by
    rw [← List.reverse_reverse cs, hsplit]
    simp
  rw [hcs, breakLast_append (by simpa using hlast)] at h
  cases h
  exact ⟨hcs, by simpa using hlast⟩

end Break

/-- The members of ranges, one by one. -/
def codePoints (ranges : List (Nat × Nat)) : List Nat :=
  ranges.flatMap fun (first, last) => List.range' first (last + 1 - first)

theorem mem_codePoints_of_inRanges {ranges : List (Nat × Nat)} {n : Nat}
    (h : inRanges ranges n = true) : n ∈ codePoints ranges := by
  induction ranges with
  | nil => cases h
  | cons range rest ih =>
      obtain ⟨first, last⟩ := range
      simp only [inRanges, Bool.and_eq_true, Bool.or_eq_true, decide_eq_true_eq] at h
      obtain ⟨hfirst, hlast | hrest⟩ := h
      · refine List.mem_append_left _ (List.mem_range'_1.mpr ?_)
        omega
      · exact List.mem_append_right _ (ih hrest)

/-- The characters that may stand in a name. -/
def isNamePart (c : Char) : Bool :=
  isAlphanumeric c || c == '_'

/-- No blank character is alphabetic or a number. -/
theorem not_isBlank_of_isNamePart (h : isNamePart c = true) : isBlank c = false := by
  have hnone : ∀ n ∈ codePoints blankRanges,
      inRanges alphabeticRanges n = false ∧ inRanges numericRanges n = false := by
    decide +kernel
  rw [Bool.eq_false_iff]
  intro hblank
  obtain ⟨hletter, hnumber⟩ := hnone _ (mem_codePoints_of_inRanges hblank)
  simp only [isNamePart, isAlphanumeric, isAlphabetic, isNumeric, hletter, hnumber, Bool.or_false,
    Bool.false_or, beq_iff_eq] at h
  subst h
  revert hblank
  decide

end Text

theorem isIdentifier_iff {name : List Char} : isIdentifier name = true ↔
    ∃ first rest, name = first :: rest ∧ (Text.isAlphabetic first = true ∨ first = '_') ∧
      ∀ c ∈ rest, Text.isAlphanumeric c = true ∨ c = '_' := by
  cases name with
  | nil => simp [isIdentifier]
  | cons first rest =>
      simp only [isIdentifier, Bool.and_eq_true, Bool.or_eq_true, beq_iff_eq, List.all_eq_true,
        List.cons.injEq]
      constructor
      · rintro ⟨hfirst, hrest⟩
        exact ⟨first, rest, ⟨rfl, rfl⟩, hfirst, hrest⟩
      · rintro ⟨_, _, ⟨rfl, rfl⟩, hfirst, hrest⟩
        exact ⟨hfirst, hrest⟩

theorem isNamePart_of_isIdentifier {name : List Char} {c : Char} (h : isIdentifier name = true)
    (hc : c ∈ name) : Text.isNamePart c = true := by
  obtain ⟨first, rest, rfl, hfirst, hrest⟩ := isIdentifier_iff.mp h
  rw [Text.isNamePart, Bool.or_eq_true, beq_iff_eq]
  rcases List.mem_cons.mp hc with rfl | hlater
  · exact hfirst.imp_left fun hletter => by simp [Text.isAlphanumeric, hletter]
  · exact hrest c hlater

theorem not_mem_of_isIdentifier {name : List Char} {c : Char} (h : isIdentifier name = true)
    (hc : Text.isNamePart c = false) : c ∉ name := by
  intro hmem
  rw [isNamePart_of_isIdentifier h hmem] at hc
  cases hc

namespace TypeRef

variable {t t' : TypeRef} {text text' : String} {name path part cs : List Char} {c : Char}
  {pointer : Bool}

/-- A reference whose written form can be read. -/
structure Legible (t : TypeRef) : Prop where
  name : ∃ first rest, t.name.toList = first :: rest ∧
    (Text.isAlphabetic first = true ∨ first = '_') ∧
    ∀ c ∈ rest, Text.isAlphanumeric c = true ∨ c = '_'
  start : t.importPath.toList.head? ≠ some '"'
  finish : t.importPath.toList.getLast? ≠ some '"'

section Star

/-- A name behind the star of a pointer. -/
def starred (pointer : Bool) (name : List Char) : List Char :=
  if pointer then '*' :: name else name

theorem splitStar_eq_self (h : cs.head? ≠ some '*') : splitStar cs = (false, cs) := by
  unfold splitStar
  split
  · exact absurd rfl h
  · rfl

theorem splitStar_starred (h : '*' ∉ name) (pointer : Bool) :
    splitStar (starred pointer name) = (pointer, name) := by
  cases pointer with
  | true => rfl
  | false => exact splitStar_eq_self fun hhead => h (List.mem_of_mem_head? hhead)

theorem mem_splitStar_iff (hc : c ≠ '*') : c ∈ (splitStar cs).2 ↔ c ∈ cs := by
  unfold splitStar
  split
  · simp [hc]
  · rfl

/-- A dot counts wherever it stands: no end of a text that is dropped has one. -/
theorem dot_mem_splitStar_iff :
    '.' ∈ (splitStar (Text.trimBlank text.toList)).2 ↔ '.' ∈ text.toList := by
  rw [mem_splitStar_iff (by decide)]
  exact ⟨Text.mem_of_trimWith, Text.mem_trimWith_of_mem (by decide)⟩

theorem mem_starred (h : c ∈ starred pointer name) : c = '*' ∨ c ∈ name := by
  cases pointer with
  | true => exact List.mem_cons.mp h
  | false => exact Or.inr h

end Star

theorem parseName_eq_ok_iff {reference : String} {star : Bool} :
    parseName reference path star part = .ok t ↔ isIdentifier (splitStar part).2 = true ∧
      t = ⟨String.ofList path, String.ofList (splitStar part).2, star || (splitStar part).1⟩ := by
  unfold parseName
  generalize splitStar part = cut
  obtain ⟨nameStar, name⟩ := cut
  cases name with
  | nil => simp [isIdentifier]
  | cons first rest =>
      simp only [reduceCtorEq, if_false]
      split
      case isTrue hident => simp [hident, eq_comm]
      case isFalse hident => simp [hident]

/-- How a reference is read: the path has no quotes at its ends, and there is one exactly if the text
has a dot. -/
theorem exists_of_parse (h : parse text = .ok t) : ∃ path star part,
    parseName text path star part = .ok t ∧ Text.Trimmed (· == '"') path ∧
      (path = [] ↔ '.' ∉ text.toList) := by
  have hdot : '.' ∈ (splitStar (Text.trimBlank text.toList)).2 ↔ '.' ∈ text.toList :=
    dot_mem_splitStar_iff
  unfold parse at h
  simp only at h
  split at h
  case isTrue => cases h
  case isFalse hbody =>
    generalize splitStar (Text.trimBlank text.toList) = cut at h hdot
    obtain ⟨star, rest⟩ := cut
    split at h
    case h_1 hnone =>
      refine ⟨[], star, rest, h, Text.trimmed_of_forall (by simp), ?_⟩
      simpa [← hdot] using Text.breakLast_eq_none_iff.mp hnone
    case h_2 before part hsome =>
      split at h
      case isTrue => cases h
      case isFalse hpath =>
        have hmem : '.' ∈ rest := by
          by_contra hnot
          rw [Text.breakLast_eq_none_iff.mpr hnot] at hsome
          cases hsome
        refine ⟨_, star, part, h, Text.trimmed_trimWith _ _, ?_⟩
        simp [hpath, hdot.mp hmem]

theorem legible_of_parse (h : parse text = .ok t) : t.Legible := by
  obtain ⟨path, star, part, hname, htrimmed, -⟩ := exists_of_parse h
  obtain ⟨hident, rfl⟩ := parseName_eq_ok_iff.mp hname
  obtain ⟨hstart, hfinish⟩ := Text.trimmed_quote_iff.mp htrimmed
  exact
    { name := by simpa using isIdentifier_iff.mp hident
      start := by simpa using hstart
      finish := by simpa using hfinish }

theorem importPath_eq_empty_iff_of_parse (h : parse text = .ok t) :
    t.importPath = "" ↔ '.' ∉ text.toList := by
  obtain ⟨path, star, part, hname, -, hpath⟩ := exists_of_parse h
  obtain ⟨-, rfl⟩ := parseName_eq_ok_iff.mp hname
  rw [← hpath, String.ofList_eq_empty_iff]

theorem parseQualified_eq_ok_iff :
    parseQualified text = .ok t ↔ parse text = .ok t ∧ t.importPath ≠ "" := by
  rw [parseQualified, Except.bind_eq_ok_iff]
  constructor
  · rintro ⟨u, hparse, h⟩
    split at h
    case isTrue => cases h
    case isFalse hvalue =>
      cases h
      exact ⟨hparse, fun hempty => hvalue (beq_iff_eq.mpr hempty)⟩
  · rintro ⟨hparse, hne⟩
    refine ⟨t, hparse, if_neg ?_⟩
    exact mt beq_iff_eq.mp hne

theorem not_parseQualified_of_dotless (h : '.' ∉ text.toList) (t : TypeRef) :
    parseQualified text ≠ .ok t := by
  intro hparse
  obtain ⟨hparse, hne⟩ := TypeRef.parseQualified_eq_ok_iff.mp hparse
  exact hne ((importPath_eq_empty_iff_of_parse hparse).mpr h)

section Display

theorem toList_display_of_builtin (h : t.importPath = "") :
    t.display.toList = starred t.pointer t.name.toList := by
  obtain ⟨path, name, pointer⟩ := t
  subst h
  cases pointer <;> simp [display, isBuiltin, starred]

theorem toList_display_of_qualified (h : t.importPath ≠ "") : t.display.toList =
    '"' :: (t.importPath.toList ++ ['"']) ++ '.' :: starred t.pointer t.name.toList := by
  obtain ⟨path, name, pointer⟩ := t
  cases pointer <;> simp_all [display, isBuiltin, starred]

theorem not_blank_of_mem_starred (h : isIdentifier name = true) (hc : c ∈ starred pointer name) :
    Text.isBlank c = false := by
  rcases mem_starred hc with rfl | hmem
  · decide
  · exact Text.not_isBlank_of_isNamePart (isNamePart_of_isIdentifier h hmem)

theorem parseName_starred (h : isIdentifier name = true) (reference : String) (path : List Char)
    (pointer : Bool) : parseName reference path false (starred pointer name) =
      .ok ⟨String.ofList path, String.ofList name, pointer⟩ := by
  have hstar : '*' ∉ name := not_mem_of_isIdentifier h (by decide)
  rw [parseName_eq_ok_iff, splitStar_starred hstar]
  exact ⟨h, rfl⟩

/-- The name of a builtin type, with a star or without, is read as it stands. -/
theorem parse_of_starred (h : isIdentifier name = true)
    (htext : text.toList = starred pointer name) :
    parse text = .ok ⟨"", String.ofList name, pointer⟩ := by
  have hstar : '*' ∉ name := not_mem_of_isIdentifier h (by decide)
  have hdot : '.' ∉ name := not_mem_of_isIdentifier h (by decide)
  have hbody : Text.trimBlank text.toList = starred pointer name := by
    rw [htext]
    exact (Text.trimmed_of_forall fun c => not_blank_of_mem_starred h).trimWith_eq
  have hne : starred pointer name ≠ [] := by
    obtain ⟨first, rest, rfl, -⟩ := isIdentifier_iff.mp h
    cases pointer <;> simp [starred]
  unfold parse
  simp only [hbody, hne, if_false, splitStar_starred hstar, Text.breakLast_eq_none_iff.mpr hdot]
  rw [parseName_eq_ok_iff, splitStar_eq_self fun hhead => hstar (List.mem_of_mem_head? hhead)]
  exact ⟨h, by simp⟩

/-- A path in quotes is read up to the last dot, whatever it holds itself. -/
theorem parse_eq_parseName_of_quoted (hne : path ≠ []) (htrimmed : Text.Trimmed (· == '"') path)
    (hdot : '.' ∉ part) (hlast : ∀ c, part.getLast? = some c → Text.isBlank c = false)
    (htext : text.toList = '"' :: (path ++ ['"']) ++ '.' :: part) :
    parse text = parseName text path false part := by
  have hends : Text.Trimmed Text.isBlank ('"' :: (path ++ ['"']) ++ '.' :: part) := by
    refine ⟨fun c hc => ?_, fun c hc => ?_⟩
    · cases hc
      decide
    · rw [List.getLast?_append_of_ne_nil _ (List.cons_ne_nil _ _)] at hc
      cases part with
      | nil =>
          cases hc
          decide
      | cons first rest => exact hlast c (List.getLast?_cons_cons.symm.trans hc)
  have hbody : Text.trimBlank text.toList = '"' :: (path ++ ['"']) ++ '.' :: part := by
    rw [htext]
    exact hends.trimWith_eq
  have hquoted : Text.trimBlank ('"' :: (path ++ ['"'])) = '"' :: (path ++ ['"']) := by
    refine (Text.trimmed_cons_append (by decide) (by simp) fun c hc => ?_).trimWith_eq
    rw [List.mem_singleton.mp hc]
    decide
  have hpath : Text.trimQuotes ('"' :: (path ++ ['"'])) = path :=
    htrimmed.trimWith_wrap hne (by decide)
  have hplain : splitStar ('"' :: (path ++ ['"']) ++ '.' :: part) =
      (false, '"' :: (path ++ ['"']) ++ '.' :: part) :=
    splitStar_eq_self (by simp)
  unfold parse
  simp only [hbody, hplain, Text.breakLast_append hdot, hquoted, hpath, hne, if_false]
  exact if_neg (by simp)

theorem parse_of_quoted (h : isIdentifier name = true) (hne : path ≠ [])
    (htrimmed : Text.Trimmed (· == '"') path)
    (htext : text.toList = '"' :: (path ++ ['"']) ++ '.' :: starred pointer name) :
    parse text = .ok ⟨String.ofList path, String.ofList name, pointer⟩ := by
  have hdot : '.' ∉ starred pointer name := fun hmem =>
    not_mem_of_isIdentifier h (by decide) ((mem_starred hmem).resolve_left (by decide))
  have hlast : ∀ c, (starred pointer name).getLast? = some c → Text.isBlank c = false :=
    fun c hc => not_blank_of_mem_starred h (List.mem_of_getLast? hc)
  rw [parse_eq_parseName_of_quoted hne htrimmed hdot hlast htext, parseName_starred h]

end Display

/-- Each legible reference is read back from its written form. -/
theorem parse_display (h : t.Legible) : parse t.display = .ok t := by
  have hident := isIdentifier_iff.mpr h.name
  by_cases hpath : t.importPath = ""
  · rw [parse_of_starred hident (toList_display_of_builtin hpath), String.ofList_toList, ← hpath]
  · have hne : t.importPath.toList ≠ [] := by simpa using hpath
    have htrimmed := Text.trimmed_quote_iff.mpr ⟨h.start, h.finish⟩
    rw [parse_of_quoted hident hne htrimmed (toList_display_of_qualified hpath),
      String.ofList_toList, String.ofList_toList]

/-- The written forms tell references apart that were read. -/
theorem eq_iff_display_eq_of_parse (h : parse text = .ok t) (h' : parse text' = .ok t') :
    t = t' ↔ t.display = t'.display := by
  refine ⟨congrArg display, fun hsame => ?_⟩
  have hback := parse_display (legible_of_parse h)
  rw [hsame, parse_display (legible_of_parse h')] at hback
  cases hback
  rfl

/-- How the reading of references and the writing of them belong together. -/
structure Inverse (read : String → Except ReferenceError TypeRef) (write : TypeRef → String) :
    Prop where
  legible : ∀ text t, read text = .ok t → t.Legible
  /-- Only a text with a dot names a package. -/
  builtin : ∀ text t, read text = .ok t → (t.importPath = "" ↔ '.' ∉ text.toList)
  readable : ∀ t : TypeRef, t.Legible → read (write t) = .ok t
  reread : ∀ text t, read text = .ok t → read (write t) = .ok t
  apart : ∀ text text' t t', read text = .ok t → read text' = .ok t' →
    (t = t' ↔ write t = write t')

/-- The references that can be read are the legible ones, and what is written for them is read as
the same reference again. -/
theorem inverse_parse_display : Inverse parse display where
  legible _ _ := legible_of_parse
  builtin _ _ := importPath_eq_empty_iff_of_parse
  readable _ := parse_display
  reread _ _ h := parse_display (legible_of_parse h)
  apart _ _ _ _ := eq_iff_display_eq_of_parse

end TypeRef

namespace Sample

/-- A pointer to a type of a package whose path has blanks, dots and quotes. -/
def boutique : TypeRef where
  importPath := "my \"own\" shop.v1.5"
  name := "Cart"
  pointer := true

theorem parse_boutique : TypeRef.parse " * my \"own\" shop.v1.5 .*Cart" = .ok boutique := by
  decide +kernel

theorem reread_boutique : TypeRef.parse " * my \"own\" shop.v1.5 .*Cart" = .ok boutique ∧
    boutique.Legible ∧ TypeRef.parse boutique.display = .ok boutique :=
  ⟨parse_boutique, TypeRef.inverse_parse_display.legible _ _ parse_boutique,
    TypeRef.inverse_parse_display.reread _ _ parse_boutique⟩

end Sample

end Wiring
