import DetectorSim.Proofs.Chain.Assembly
import DetectorSim.Proofs.Geometry.Models

/-! Which numbers the checks of a chain let through. A pitch and a threshold are refused if they
compare as too low; what is not a number does not compare. -/

namespace DetectorSim

open Config
open Interaction (Exchange)

variable {ω : Type}

namespace Decimal

/-- The word for what is not a number is read in any case of letters. -/
theorem readLiteral_nan {cs : List Char} (word : cs.map Char.toLower = "nan".toList) :
    readLiteral cs = .ok (false, .notANumber) := by
  have unsigned : readUnsigned cs = some .notANumber := by
    rw [readUnsigned, word]
    rfl
  cases cs with
  | nil => cases word
  | cons c rest =>
    have letter : c.toLower = 'n' := (List.cons.inj word).1
    have plus : c ≠ '+' := by
      rintro rfl
      cases letter
    have minus : c ≠ '-' := by
      rintro rfl
      cases letter
    simp only [readLiteral, if_neg plus, if_neg minus, unsigned]

end Decimal

namespace ThresholdDigitizer

/-- The section gives a digitizer its threshold, and a policy if it says one. The threshold is not
below zero, which a number that compares with nothing is not either. -/
structure Sets (s : Section) (threshold : Float) : Prop where
  reading : s.readingOr .float64 "threshold" (1000.0 : Float) = .ok threshold
  extent : 0.0 ≤ threshold ∨ threshold.isNaN = true
  policy : s.has "on_empty" = true →
    ∃ chosen, ((Access.choice "on_empty" (policies.map Prod.fst)).on s).1 = .ok chosen

theorem outcome_readParameters (s : Section) :
    (readParameters.on s).1 =
      (s.readingOr .float64 "threshold" (1000.0 : Float)).bind fun threshold : Float =>
      if threshold < 0.0 then .error (.unacceptable s.identifier "threshold" .negativeThreshold)
      else if s.has "on_empty" = true then
        ((Access.choice "on_empty" (policies.map Prod.fst)).on s).1.bind fun chosen =>
          .ok (threshold, (policies.lookup chosen).getD .keep)
      else .ok (threshold, .keep) := by
  refine (Access.outcome_bind (Access.on_readOr ..)).trans ?_
  refine congrArg _ (funext fun threshold : Float => ?_)
  refine Access.outcome_unless.trans ?_
  rw [Section.identifier_mark]
  refine if_congr Iff.rfl rfl ((Access.outcome_bind (Access.on_has ..)).trans ?_)
  rw [Section.has_mark]
  cases s.has "on_empty" with
  | false => rfl
  | true =>
    have same := Access.choice_mark "on_empty" "threshold" (policies.map Prod.fst) s
    generalize first : (Access.choice "on_empty" _).on (s.mark "threshold") = chose at same
    obtain ⟨outcome, after⟩ := chose
    refine (Access.outcome_bind first).trans ?_
    rw [← same]
    rfl

/-- A threshold is read exactly from the sections that set it. -/
theorem readParameters_eq_ok_iff {s : Section} {threshold : Float} :
    (∃ policy, (readParameters.on s).1 = .ok (threshold, policy)) ↔ Sets s threshold := by
  rw [outcome_readParameters]
  constructor
  · rintro ⟨policy, read⟩
    obtain ⟨(found : Float), reading, read⟩ := bind_eq_ok_iff.mp read
    obtain ⟨extent, read⟩ := refused_or_iff.mp read
    have extent := (Decimal.not_lt_zero_iff found).mp extent
    split at read
    · obtain ⟨chosen, chose, same⟩ := bind_eq_ok_iff.mp read
      cases same
      exact ⟨reading, extent, fun _ => ⟨chosen, chose⟩⟩
    · rename_i silent
      cases read
      exact ⟨reading, extent, fun present => absurd present silent⟩
  · rintro ⟨reading, extent, policy⟩
    have allowed := (Decimal.not_lt_zero_iff threshold).mpr extent
    by_cases present : s.has "on_empty" = true
    · obtain ⟨chosen, chose⟩ := policy present
      refine ⟨(policies.lookup chosen).getD .keep, bind_eq_ok_iff.mpr ⟨_, reading, ?_⟩⟩
      refine refused_or_iff.mpr ⟨allowed, ?_⟩
      rw [if_pos present]
      exact bind_eq_ok_iff.mpr ⟨chosen, chose, rfl⟩
    · refine ⟨.keep, bind_eq_ok_iff.mpr ⟨_, reading, refused_or_iff.mpr ⟨allowed, ?_⟩⟩⟩
      rw [if_neg present]

theorem hitsOf_nan {d : ThresholdDigitizer} (nan : d.threshold.isNaN = true) (deposits : Deposits) :
    (d.hitsOf deposits).pixels = [] :=
  List.filter_eq_nil_iff.mpr fun _ _ reaches =>
    Decimal.not_le_of_isNaN nan (of_decide_eq_true reaches)

end ThresholdDigitizer

open ThresholdDigitizer in
/-- The numbers that the checks let through. A model is read exactly from the sections that describe
it, and its pitch is above zero or not a number. A threshold is read exactly from the sections that
set it, and it is at least zero or not a number; whatever a constructor of digitizers is answered, it
constructs one whose threshold is set by the section that it was shown. The word `nan` is read as
what is not a number in any case of letters, and as a threshold it lets no charge through. -/
theorem checks_let_unordered_numbers_through :
    (∀ s m, (DetectorModel.read.on s).1 = .ok m ↔ m.DescribedBy s) ∧
    (∀ s threshold, (∃ policy, (readParameters.on s).1 = .ok (threshold, policy)) ↔
      Sets s threshold) ∧
    (∀ (view : SetupView) (exchanges : List (Exchange (buildInterface ω))) blueprint,
      ((moduleType (ω := ω)).construct view).run.Reaches exchanges (.done (.ok blueprint)) →
        ∃ (d : ThresholdDigitizer) (marks : Section → Section) (s : Section),
          ⟨.own marks, s⟩ ∈ exchanges ∧ blueprint = d.toModule.blueprint ∧ Sets s d.threshold) ∧
    (∀ text : String, text.toList.map Char.toLower = "nan".toList →
      ∃ x : Float, Kind.float64.read (.scalar text) = .ok x ∧ x.isNaN = true) ∧
    ∀ (d : ThresholdDigitizer) deposits, d.threshold.isNaN = true →
      (d.hitsOf deposits).pixels = [] := by
  refine ⟨fun s m => DetectorModel.read_eq_ok_iff, fun s t => readParameters_eq_ok_iff, ?_, ?_,
    fun d deposits nan => hitsOf_nan nan deposits⟩
  · intro view exchanges blueprint reaches
    obtain ⟨detector, own, reads⟩ := SetupView.reaches_boundDetector reaches
    obtain ⟨before, _, ⟨threshold, policy⟩, rfl, read, subscribes⟩ :=
      BuildProgram.reaches_access reads
    obtain ⟨_, rfl, ends⟩ := BuildProgram.reaches_subscribe subscribes
    obtain ⟨rfl, same⟩ := Interaction.reaches_done_iff.mp ends
    cases same
    exact ⟨⟨detector, threshold, policy⟩, _, before, List.mem_cons_self, rfl,
      readParameters_eq_ok_iff.mp ⟨policy, read⟩⟩
  · intro text word
    refine ⟨0.0 / 0.0, ?_, by decide +kernel⟩
    have single : (Value.scalar text).single = .ok text := rfl
    rw [Kind.read, single, Except.bind, Decimal.readLiteral_nan word]
    rfl

/-- A threshold that is no number. -/
private def silent : Section :=
  (Section.new "ThresholdDigitizer" (some "dut")).set "threshold" "NaN"

/-- A digitizer with such a threshold is set up, and digitizes no charge. -/
theorem silent_digitizer_is_set_up :
    ∃ threshold : Float, threshold.isNaN = true ∧
      (∃ policy, (ThresholdDigitizer.readParameters.on silent).1 = .ok (threshold, policy)) ∧
        ∀ (d : ThresholdDigitizer) deposits, d.threshold = threshold →
          (d.hitsOf deposits).pixels = [] := by
  obtain ⟨_, thresholds, _, words, nothing⟩ := checks_let_unordered_numbers_through (ω := Unit)
  obtain ⟨threshold, read, nan⟩ := words "NaN" (by decide)
  refine ⟨threshold, nan, (thresholds silent threshold).mpr ⟨?_, .inr nan, ?_⟩, ?_⟩
  · have reading : silent.readingOr .float64 "threshold" (1000.0 : Float) =
        (Kind.float64.read (.scalar "NaN")).mapError
          (.wrongKind silent.identifier "threshold" "NaN" .float64) := rfl
    rw [reading, read]
    rfl
  · intro present
    cases present
  · rintro d deposits rfl
    exact nothing d deposits nan

/-- A model with a pitch that is no number. -/
private def unmeasured : Section :=
  ((((Section.new "wafer" none).set "assembly" "monolithic").set "number_of_pixels" "4, 5").set
    "pixel_size" "nan, 1").set "sensor_thickness" "0.3"

/-- A model is accepted with a pitch that is not positive, and a digitizer with a threshold that is
not at least zero. -/
theorem pitch_and_threshold_that_are_no_numbers_are_accepted :
    (∃ m, (DetectorModel.read.on unmeasured).1 = .ok m ∧ ∃ p ∈ m.pitch, ¬0.0 < p) ∧
      ∃ threshold policy, (ThresholdDigitizer.readParameters.on silent).1 = .ok (threshold, policy) ∧
        ¬0.0 ≤ threshold := by
  have pitch : (DetectorModel.read.on unmeasured).1.map (fun m => decide (0.0 < m.pitch[0])) =
      .ok false := by decide +kernel
  have threshold : (ThresholdDigitizer.readParameters.on silent).1.map
      (fun parameters => decide (0.0 ≤ parameters.1)) = .ok false := by decide +kernel
  obtain ⟨m, accepted, low⟩ := ok_of_map pitch
  obtain ⟨⟨t, policy⟩, admitted, below⟩ := ok_of_map threshold
  exact ⟨⟨m, accepted, m.pitch[0], Vector.getElem_mem _, of_decide_eq_false low⟩,
    t, policy, admitted, of_decide_eq_false below⟩

end DetectorSim
