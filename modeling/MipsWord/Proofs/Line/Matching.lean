import MipsWord.Encode.Basic
import MipsWord.Proofs.Line.Reading
import MipsWord.Tables.Load

/-!
This module contains the matching of a text against the forms of a line one after the other. As no text has
two forms, and no form spells a text in two ways, neither the order of the forms nor the way in which a form
is matched has any effect.
-/

namespace MipsWord

variable {text : List Char} {line : Line} {forms : List Grammar}

theorem Line.Spells.unique {line₁ line₂ : Line} (h₁ : line₁.Spells text) (h₂ : line₂.Spells text) :
    line₁ = line₂ := by
  rw [← Line.ofChars?_eq_some_iff] at h₁ h₂
  rw [h₁, Option.some.injEq] at h₂
  exact h₂

def Grammar.Fits (form : Grammar) (text : List Char) : Prop :=
  ∃ line : Line, line.grammar = form ∧ line.Spells text

theorem Grammar.Fits.unique {form₁ form₂ : Grammar} (h₁ : form₁.Fits text) (h₂ : form₂.Fits text) :
    form₁ = form₂ := by
  obtain ⟨line₁, rfl, hspells₁⟩ := h₁
  obtain ⟨line₂, rfl, hspells₂⟩ := h₂
  rw [hspells₁.unique hspells₂]

theorem grammarOf?_eq_some_iff {text : String} {form : Grammar} :
    grammarOf? text = some form ↔ form.Fits (Line.normalize text) := by
  unfold grammarOf? Line.read?
  simp only [Option.map_eq_some_iff, Line.ofChars?_eq_some_iff, Grammar.Fits]
  exact exists_congr fun line => and_comm

/--
A way to match a text against a form. It finds a line of that form which the text spells whenever there is
one; which one it finds, and how, is left open.
-/
structure Matcher where
  find? : Grammar → List Char → Option Line
  spells {form : Grammar} {text : List Char} {line : Line} :
    find? form text = some line → line.grammar = form ∧ line.Spells text
  isSome_of_spells {text : List Char} {line : Line} :
    line.Spells text → (find? line.grammar text).isSome = true

namespace Matcher

variable {matcher : Matcher}

instance : Inhabited Matcher where
  default :=
    { find? := fun form text => (Line.ofChars? text).filter (·.grammar = form)
      spells := by
        intro form text line h
        rw [Option.filter_eq_some_iff, Line.ofChars?_eq_some_iff] at h
        exact ⟨by simpa using h.2, h.1⟩
      isSome_of_spells := by
        intro text line h
        rw [← Line.ofChars?_eq_some_iff] at h
        simp [h] }

def form? (matcher : Matcher) (forms : List Grammar) (text : List Char) : Option Grammar :=
  forms.find? fun form => (matcher.find? form text).isSome

def line? (matcher : Matcher) (forms : List Grammar) (text : List Char) : Option Line :=
  forms.findSome? fun form => matcher.find? form text

def encode (matcher : Matcher) (forms : List Grammar) (tables : Tables) (text : String) :
    Outcome String :=
  match matcher.line? forms (Line.normalize text) with
  | none => .unrecognised
  | some line => line.outcome tables

theorem isSome_find?_iff {form : Grammar} :
    (matcher.find? form text).isSome = true ↔ form.Fits text := by
  constructor
  · intro h
    obtain ⟨line, hline⟩ := Option.isSome_iff_exists.1 h
    exact ⟨line, matcher.spells hline⟩
  · rintro ⟨line, rfl, hspells⟩
    exact matcher.isSome_of_spells hspells

theorem form?_eq_some_iff {form : Grammar} (hforms : ∀ form, form ∈ forms) :
    matcher.form? forms text = some form ↔ form.Fits text := by
  -- Whichever form is found first is a form of the text, and the text has no other.
  have hfits : ∀ {form}, matcher.form? forms text = some form → form.Fits text := by
    intro form h
    have hfound := List.find?_some h
    exact isSome_find?_iff.1 hfound
  constructor
  · exact hfits
  · intro h
    have hfound : (matcher.form? forms text).isSome = true := by
      unfold form?
      rw [List.find?_isSome]
      exact ⟨form, hforms form, isSome_find?_iff.2 h⟩
    obtain ⟨first, hfirst⟩ := Option.isSome_iff_exists.1 hfound
    rw [hfirst, (hfits hfirst).unique h]

theorem line?_eq_some_iff (hforms : ∀ form, form ∈ forms) :
    matcher.line? forms text = some line ↔ line.Spells text := by
  have hspells : ∀ {line}, matcher.line? forms text = some line → line.Spells text := by
    intro line h
    obtain ⟨form, -, hfound⟩ := List.exists_of_findSome?_eq_some h
    exact (matcher.spells hfound).2
  constructor
  · exact hspells
  · intro h
    have hfound : (matcher.line? forms text).isSome = true := by
      unfold line?
      rw [List.findSome?_isSome_iff]
      exact ⟨line.grammar, hforms line.grammar, matcher.isSome_of_spells h⟩
    obtain ⟨first, hfirst⟩ := Option.isSome_iff_exists.1 hfound
    rw [hfirst, (hspells hfirst).unique h]

theorem form?_eq_grammarOf? {text : String} (hforms : ∀ form, form ∈ forms) :
    matcher.form? forms (Line.normalize text) = grammarOf? text := by
  ext form
  rw [form?_eq_some_iff hforms, grammarOf?_eq_some_iff]

theorem encode_eq {tables : Tables} {text : String} (hforms : ∀ form, form ∈ forms) :
    matcher.encode forms tables text = MipsWord.encode tables text := by
  have hread : matcher.line? forms (Line.normalize text) = Line.read? text := by
    ext line
    rw [line?_eq_some_iff hforms, Line.read?, Line.ofChars?_eq_some_iff]
  unfold encode MipsWord.encode
  cases hline : Line.read? text with
  | none => simp only [hread, hline]
  | some line => simp only [hread, hline]

end Matcher

theorem forms_exact_and_unambiguous (text : String) :
    (∀ form, grammarOf? text = some form ↔ form.Fits (Line.normalize text)) ∧
      (∀ form₁ form₂ : Grammar, form₁.Fits (Line.normalize text) →
        form₂.Fits (Line.normalize text) → form₁ = form₂) ∧
      (∀ line, Line.read? text = some line ↔ line.Spells (Line.normalize text)) ∧
      (∀ line₁ line₂ : Line, line₁.Spells (Line.normalize text) →
        line₂.Spells (Line.normalize text) → line₁ = line₂) ∧
      ∀ (matcher : Matcher) (forms : List Grammar), (∀ form, form ∈ forms) →
        matcher.form? forms (Line.normalize text) = grammarOf? text ∧
          ∀ tables, matcher.encode forms tables text = encode tables text := by
  refine ⟨?_, ?_, ?_, ?_, ?_⟩
  · intro form
    exact grammarOf?_eq_some_iff
  · intro form₁ form₂ h₁ h₂
    exact h₁.unique h₂
  · intro line
    exact Line.ofChars?_eq_some_iff
  · intro line₁ line₂ h₁ h₂
    exact h₁.unique h₂
  · intro matcher forms hforms
    refine ⟨Matcher.form?_eq_grammarOf? hforms, ?_⟩
    intro tables
    exact Matcher.encode_eq hforms

theorem forms_exact_and_unambiguous_reverse :
    (∀ form, form ∈ Grammar.all.reverse) ∧
      (default : Matcher).form? Grammar.all.reverse (Line.normalize " LW\t$T0 ,( $sp ) ")
        = some .loadStore := by
  have hforms : ∀ form, form ∈ Grammar.all.reverse := by
    intro form
    cases form <;> decide
  refine ⟨hforms, ?_⟩
  rw [((forms_exact_and_unambiguous " LW\t$T0 ,( $sp ) ").2.2.2.2 default _ hforms).1]
  decide +kernel

end MipsWord
