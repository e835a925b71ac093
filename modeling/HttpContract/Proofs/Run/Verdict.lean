import HttpContract.Proofs.Json.Grammar
import HttpContract.Proofs.Json.Range
import HttpContract.Proofs.Text.Basic
import HttpContract.Run.Verdict

/-! Which responses let a case pass. Its type decides what is looked at, and of the expected codes
it counts only which ones there are. A body is a JSON document by the grammar of documents, with
numbers that have a finite binary value. -/
namespace HttpContract

@[simp] theorem TestCase.mem_expectation {codes : List StatusCode} {code : StatusCode} :
    code ∈ expectation codes ↔ code ∈ codes ∨ codes = [] ∧ code = 200 := by
  by_cases none_named : codes = []
  · simp [expectation, none_named, defaultStatus]
  · simp [expectation, none_named]

namespace Verdict

open Json (Numeral IsDocument maxExponent digitsValue)
open Binary64 (limit)

def IsMissing (text? : Option Text) : Prop := ∀ text ∈ text?, Text.isBlank text = true

/-- What a case of each type asks of a response, with the codes that it was given. -/
def Meets (test : TestCase) (codes : List StatusCode) (response : Response) : Prop :=
  match test.testType with
  | .statusCode => response.status ∈ codes ∨ codes = [] ∧ response.status = 200
  | .schema => (200 ≤ response.status ∧ response.status ≤ 299) ∧
      (IsMissing test.schema ∨ IsMissing response.body ∨
        ∃ body, response.body = some body ∧ IsDocument Numeral.IsFinite 127 body)
  | .performance | .security => False

variable {test : TestCase} {codes : List StatusCode} {response : Response}

@[simp] theorem isMissing_iff {text? : Option Text} :
    IsMissing text? ↔ Text.isBlank (text?.getD []) = true := by
  cases text? <;> simp [IsMissing, Text.isBlank]

@[simp] theorem ofStatus_eq_none_iff {expected : List StatusCode} {actual : StatusCode} :
    ofStatus expected actual = none ↔ actual ∈ expected := by
  unfold ofStatus
  split <;> simp_all

@[simp] theorem isSuccess_iff : response.isSuccess = true ↔
    200 ≤ response.status ∧ response.status ≤ 299 := by
  simp only [Response.isSuccess, Bool.and_eq_true, decide_eq_true_eq]
  exact and_congr_right fun _ => Nat.lt_succ_iff

theorem ofSchema_eq_none_iff {schema : Option Text} : ofSchema schema response = none ↔
    (200 ≤ response.status ∧ response.status ≤ 299) ∧
      (IsMissing schema ∨ IsMissing response.body ∨
        ∃ body, response.body = some body ∧ IsDocument Numeral.IsFinite 127 body) := by
  rw [← isSuccess_iff, isMissing_iff, isMissing_iff, ← or_assoc]
  unfold ofSchema
  by_cases success : response.isSuccess = true
  · by_cases blank : Text.isBlank (schema.getD []) = true ∨
        Text.isBlank (response.body.getD []) = true
    · simp [success, blank]
    · cases found : response.body with
      | none => exact absurd (.inr (by rw [found]; rfl)) blank
      | some body =>
        rw [found, Option.getD_some] at blank
        have decided : (∃ a, Json.parse body = .ok a) ↔
          IsDocument Numeral.IsFinite 127 body := Json.isOk_parse_iff
        cases outcome : Json.parse body with
        | ok a => simp [success, blank, outcome, decided.1 ⟨a, outcome⟩]
        | error error =>
          have refused : ¬ IsDocument Numeral.IsFinite 127 body := by
            rw [← decided, outcome]
            exact nofun
          simp [success, not_or.1 blank, outcome, refused]
  · simp [success]

@[simp] theorem judge_eq_none_iff : judge (test.withExpected codes) response = none ↔
    Meets test codes response := by
  unfold judge Meets TestCase.withExpected
  dsimp only
  cases test.testType with
  | statusCode => exact ofStatus_eq_none_iff.trans TestCase.mem_expectation
  | schema => exact ofSchema_eq_none_iff
  | performance => exact iff_of_false nofun id
  | security => exact iff_of_false nofun id

theorem meets_congr {codes' : List StatusCode} (same : ∀ code, code ∈ codes' ↔ code ∈ codes) :
    Meets test codes' response ↔ Meets test codes response := by
  have none_named : codes' = [] ↔ codes = [] := by
    simp only [List.eq_nil_iff_forall_not_mem, same]
  unfold Meets
  rw [same, none_named]

theorem Meets.mono {more : List StatusCode} (h : Meets test codes response)
    (some_named : codes ≠ []) (further : codes ⊆ more) : Meets test more response := by
  unfold Meets at h ⊢
  cases type : test.testType with
  | statusCode =>
    rw [type] at h
    exact .inl (further (h.resolve_right fun none_named => some_named none_named.1))
  | schema => rwa [type] at h
  | performance => rwa [type] at h
  | security => rwa [type] at h

/-- A case passes exactly if the response is what its type asks for. The order of the codes does
not count, nor how often each is named; and a pass with some codes stays one with more of them.

The numbers of a body may not lie beyond the limit of the binary values. On either side of it, one
part in `2 ^ 51` wide, the rounding of the digits and of the power of ten decides; and an exponent
that is too great to be written decides by its sign. -/
theorem judge_withExpected (test : TestCase) (codes : List StatusCode) (response : Response) :
    (judge (test.withExpected codes) response = none ↔ Meets test codes response) ∧
    (∀ codes', (∀ code, code ∈ codes' ↔ code ∈ codes) →
      (judge (test.withExpected codes') response = none ↔
        judge (test.withExpected codes) response = none)) ∧
    (codes ≠ [] → judge (test.withExpected codes) response = none →
      ∀ more, codes ⊆ more → judge (test.withExpected more) response = none) ∧
    ∀ (n : Numeral) (text : Text), n.IsWritten text →
      if digitsValue n.power.digits ≤ maxExponent then
        (n.magnitude ≤ (1 - 1 / 2 ^ 51) * limit → n.IsFinite) ∧
          ((1 + 1 / 2 ^ 51) * limit ≤ n.magnitude → ¬ n.IsFinite)
      else (n.IsFinite ↔ n.power.isNegative = true ∨ n.magnitude = 0) := by
  refine ⟨judge_eq_none_iff, fun codes' same => ?_, fun some_named pass more further => ?_,
    fun n text written => ?_⟩
  · rw [judge_eq_none_iff, judge_eq_none_iff, meets_congr same]
  · exact judge_eq_none_iff.2 ((judge_eq_none_iff.1 pass).mono some_named further)
  · split
    next moderate =>
      exact ⟨Numeral.isFinite_of_le written moderate, Numeral.not_isFinite_of_le written moderate⟩
    next great => exact Numeral.isFinite_iff_of_lt written (not_le.1 great)

/-- Codes in another order and once more, a further code, and a number with a great exponent. -/
theorem judge_withExpected_renamed :
    (judge ((TestCase.new "a" .get "/a").withExpected [201, 200, 201]) ⟨201, none⟩ = none ↔
      judge ((TestCase.new "a" .get "/a").withExpected [200, 201]) ⟨201, none⟩ = none) ∧
    judge ((TestCase.new "a" .get "/a").withExpected [404, 201]) ⟨201, none⟩ = none ∧
    ¬ Numeral.IsFinite ⟨"1", [], ⟨false, "400"⟩⟩ := by
  refine ⟨?_, ?_, ?_⟩
  · exact (judge_withExpected (TestCase.new "a" .get "/a") [200, 201] ⟨201, none⟩).2.1
      [201, 200, 201] (by simp)
  · exact (judge_withExpected (TestCase.new "a" .get "/a") [201] ⟨201, none⟩).2.2.1
      (by decide) (by decide) [404, 201] (by simp)
  · have written : Numeral.IsWritten ⟨"1", [], ⟨false, "400"⟩⟩ "1e400" :=
      Numeral.isWritten_power ⟨by decide, by simp⟩ nofun ⟨by decide, by simp⟩
    have many : (1 + 1 / 2 ^ 51) * limit ≤ Numeral.magnitude ⟨"1", [], ⟨false, "400"⟩⟩ := calc
      (1 + 1 / 2 ^ 51) * limit ≤ 2 * limit :=
        mul_le_mul_of_nonneg_right (by norm_num) Binary64.limit_pos.le
      _ = (2 * 2 ^ 1024 : ℕ) := by rw [limit, Nat.cast_mul, Nat.cast_pow, Nat.cast_ofNat]
      _ ≤ (digitsValue "1" * 10 ^ digitsValue "400" : ℕ) := Nat.cast_le.2 (by decide +kernel)
      _ = Numeral.magnitude ⟨"1", [], ⟨false, "400"⟩⟩ := (Numeral.magnitude_power _ _).symm
    have range := (judge_withExpected default [] default).2.2.2 _ _ written
    rw [if_pos (by decide)] at range
    exact range.2 many

end Verdict
end HttpContract
