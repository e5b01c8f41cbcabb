import Mathlib.Data.List.TakeWhile
import AgentFleet.Proofs.Creating

/-!
# Valid requests

What a request has to be for a specification to come of it, said without the
steps in which the specification is built: its image is not blank, it asks for
some memory, and every line of its environment is blank or has a key.
-/

namespace AgentFleet

/-! ## Trimming -/

namespace Text

variable {cs : List Char}

/-- Trimming takes blanks away from both ends. -/
theorem exists_trimChars
    (cs : List Char) :
    ∃ front back,
      cs = front ++ (trimChars cs ++ back) ∧
      front.all isBlank = true ∧
      back.all isBlank = true := by
  refine ⟨cs.takeWhile isBlank,
    ((cs.dropWhile isBlank).reverse.takeWhile isBlank).reverse, ?_,
    List.all_takeWhile, ?_⟩
  · rw [trimChars, ← List.reverse_append, List.takeWhile_append_dropWhile,
      List.reverse_reverse, List.takeWhile_append_dropWhile]
  · rw [List.all_reverse]
    exact List.all_takeWhile

theorem trimChars_eq_nil_iff : trimChars cs = [] ↔ cs.all isBlank = true := by
  constructor
  · intro hnil
    obtain ⟨front, back, hcs, hfront, hback⟩ := exists_trimChars cs
    rw [hnil] at hcs
    rw [hcs, List.all_append, hfront, List.nil_append, hback]
    rfl
  · intro hblank
    rw [trimChars, List.dropWhile_eq_nil_iff.mpr (List.all_eq_true.mp hblank)]
    rfl

/-! ## Keys -/

/-- There is an equals sign, and what stands in front of the first one is not
blank. -/
def HasKey (cs : List Char) : Prop :=
  ∃ key value, cs = key ++ '=' :: value ∧ '=' ∉ key ∧ key.all isBlank = false

theorem forall_bne_iff : (∀ c ∈ cs, (c != '=') = true) ↔ '=' ∉ cs := by
  simp only [bne_iff_ne]
  exact ⟨fun hpass hmem => hpass _ hmem rfl,
    fun hnot c hc heq => hnot (heq ▸ hc)⟩

/-- The equals sign is not blank. -/
theorem not_mem_of_blank (h : cs.all isBlank = true) : '=' ∉ cs :=
  fun hmem => absurd (List.all_eq_true.mp h _ hmem) (by decide)

/-- What stands in front of the first equals sign is what there is as long as
there is none. -/
theorem takeWhile_of_not_mem
    {key : List Char} (h : '=' ∉ key) (rest : List Char) :
    (key ++ '=' :: rest).takeWhile (· != '=') = key := by
  rw [List.takeWhile_append_of_pos (forall_bne_iff.mpr h),
    List.takeWhile_cons_of_neg (by decide), List.append_nil]

theorem hasKey_iff :
    HasKey cs ↔ '=' ∈ cs ∧ (cs.takeWhile (· != '=')).all isBlank = false := by
  constructor
  · rintro ⟨key, value, rfl, hkey, hblank⟩
    rw [takeWhile_of_not_mem hkey]
    exact ⟨List.mem_append_right _ List.mem_cons_self, hblank⟩
  · rintro ⟨hmem, hblank⟩
    obtain ⟨key, value, rfl, hkey⟩ := List.eq_append_cons_of_mem hmem
    rw [takeWhile_of_not_mem hkey] at hblank
    exact ⟨key, value, rfl, hkey, hblank⟩

/-- Blanks in front of a text make no difference to its having a key. -/
theorem hasKey_append_left
    {front : List Char} (h : front.all isBlank = true) :
    HasKey (front ++ cs) ↔ HasKey cs := by
  have hnot := not_mem_of_blank h
  rw [hasKey_iff, hasKey_iff,
    List.takeWhile_append_of_pos (forall_bne_iff.mpr hnot), List.all_append, h,
    Bool.true_and, List.mem_append, or_iff_right hnot]

/-- Nor do blanks behind it. -/
theorem hasKey_append_right
    {back : List Char} (h : back.all isBlank = true) :
    HasKey (cs ++ back) ↔ HasKey cs := by
  constructor
  · intro hkey
    have hmem : '=' ∈ cs :=
      (List.mem_append.mp (hasKey_iff.mp hkey).1).resolve_right
        (not_mem_of_blank h)
    obtain ⟨key, value, rfl, hnot⟩ := List.eq_append_cons_of_mem hmem
    rw [List.append_assoc, List.cons_append, hasKey_iff,
      takeWhile_of_not_mem hnot] at hkey
    exact ⟨key, value, rfl, hnot, hkey.2⟩
  · rintro ⟨key, value, rfl, hnot, hblank⟩
    exact ⟨key, value ++ back, by rw [List.append_assoc, List.cons_append],
      hnot, hblank⟩

theorem hasKey_trimChars : HasKey (trimChars cs) ↔ HasKey cs := by
  obtain ⟨front, back, hcs, hfront, hback⟩ := exists_trimChars cs
  have hkey :
      HasKey (front ++ (trimChars cs ++ back)) ↔
        HasKey (trimChars cs ++ back) := hasKey_append_left hfront
  rw [← hcs, hasKey_append_right hback] at hkey
  exact hkey.symm

end Text

/-! ## Environments -/

/-- The line of an environment is blank or has a key. -/
def Text.IsEnvironmentLine (line : String) : Prop :=
  isBlankText line = true ∨ HasKey line.toList

namespace Specification

/-- An environment line can be read exactly if it is blank or has a key. -/
theorem environmentEntry_eq_ok_iff
    (line : String) :
    (∃ entry, environmentEntry line = .ok entry) ↔
      Text.IsEnvironmentLine line := by
  rw [Text.IsEnvironmentLine, Text.isBlankText, ← Text.trimChars_eq_nil_iff,
    ← Text.hasKey_trimChars, environmentEntry]
  generalize Text.trimChars line.toList = cs
  by_cases hblank : cs = []
  · simp [hblank]
  · rw [or_iff_right hblank, Text.hasKey_iff]
    simp only [if_neg hblank]
    cases hvalue : cs.dropWhile (· != '=') with
    | nil =>
      have hnone := Text.forall_bne_iff.mp (List.dropWhile_eq_nil_iff.mp hvalue)
      simp [hnone]
    | cons c value =>
      have hmem : '=' ∈ cs := by
        by_contra hnot
        rw [List.dropWhile_eq_nil_iff.mpr (Text.forall_bne_iff.mpr hnot)]
          at hvalue
        cases hvalue
      rw [Bool.eq_false_iff, Ne, ← Text.trimChars_eq_nil_iff]
      by_cases hkey : Text.trimChars (cs.takeWhile (· != '=')) = []
      · simp [hkey]
      · simp [hkey, hmem]

theorem addLines_eq_ok_iff
    (lines : List String) (env : Std.ExtTreeMap String String) :
    (∃ env', addLines lines env = .ok env') ↔
      ∀ line ∈ lines, Text.IsEnvironmentLine line := by
  induction lines generalizing env with
  | nil => simp [addLines]
  | cons line rest ih =>
    rw [List.forall_mem_cons, ← environmentEntry_eq_ok_iff, addLines]
    rcases environmentEntry line with e | _ | ⟨key, value⟩
    · simp
    · simp [ih]
    · simp [ih]

end Specification

/-! ## Requests -/

/-- A specification can be built for the request. -/
structure AgentRequest.IsValid (r : AgentRequest) : Prop where
  image : Text.isBlankText r.profile.image = false
  memory : r.profile.memory ≠ 0
  environment : ∀ line ∈ r.profile.environment, Text.IsEnvironmentLine line

/-- Whether a specification comes of a request depends on nothing but the
request. -/
theorem Specification.ofRequest_eq_ok_iff
    {name : String} {r : AgentRequest} {s : Settings} {server : String} :
    (∃ spec, ofRequest name r s server = .ok spec) ↔ r.IsValid := by
  have henvironment :
      (∃ env, environmentFor name r s = .ok env) ↔
        ∀ line ∈ r.profile.environment, Text.IsEnvironmentLine line :=
    addLines_eq_ok_iff _ _
  constructor
  · rintro ⟨spec, hspec⟩
    obtain ⟨himage, hmemory, env, henv, -⟩ := ofRequest_eq_assemble_iff.mp hspec
    exact ⟨himage, hmemory, henvironment.mp ⟨env, henv⟩⟩
  · intro hvalid
    obtain ⟨env, henv⟩ := henvironment.mpr hvalid.environment
    exact ⟨_,
      ofRequest_eq_assemble_iff.mpr
        ⟨hvalid.image, hvalid.memory, env, henv, rfl⟩⟩

end AgentFleet
