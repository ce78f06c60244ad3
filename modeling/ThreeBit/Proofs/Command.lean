import Mathlib
import ThreeBit.Cli.Run
import ThreeBit.Proofs.Grammar
import ThreeBit.Proofs.SelfCheck

/-! # What the command answers

Everything that the command says follows from three things: whether the text of the file is a
listing, whether the listing has a reference outcome, and whether the cycle budget covers the
reference steps. `Request.answer` is that rule, with no log and no device in it, and the command
keeps to it (`Request.perform_snd`). So the check of the model can fail in one way only, for want of
cycles.

The chain is: a parsed program has words of three bits (`Listing.word_le_seven_of_parse`), which fit
every width that the reference admits, so the model device is in lockstep with the reference and its
check is decided by the numbers of cycles and steps (`verifyModel_snd`). -/

namespace ThreeBit

/-- The reference outcome does not depend on the log. -/
theorem Config.expectedLogged_snd_eq_expected {τ : Type} (log : τ → LogEntry → τ) (config : Config)
    (listing : Listing) (state : τ) :
    (config.expectedLogged log listing state).2 = config.expected listing := by
  rw [Config.expected, Config.expectedLogged_snd, Config.expectedLogged_snd]

/-- What a check does does not depend on the log. -/
theorem Device.checkLogged_snd_eq_check {σ τ : Type} (device : Device σ) (log : τ → LogEntry → τ)
    (config : Config) (listing : Listing) (state : τ) (internal : σ) :
    (device.checkLogged log config listing state internal).2
      = device.check config listing internal := by
  rw [Device.check, Device.checkLogged_snd, Device.checkLogged_snd]

/-! ## Files -/

/-- A text can be had from the bytes that keep it. -/
theorem decodeText_toUTF8 (text : String) : decodeText text.toUTF8 = .ok text := by
  have hdecode : String.fromUTF8? text.toUTF8 = some text := dif_pos text.isValidUTF8
  rw [decodeText, hdecode]

/-- Loading a file that holds a text is parsing the text. -/
theorem Listing.load_toUTF8 (path text : String) :
    Listing.load path (.ok text.toUTF8) = (Listing.parse text).mapError .malformed := by
  have hcontent : (Except.ok text.toUTF8 : Except ReadError ByteArray).bind decodeText = .ok text :=
    decodeText_toUTF8 text
  rw [Listing.load, hcontent]
  cases hparse : Listing.parse text <;> simp only [hparse, Except.mapError]

/-- **Parsed programs fit every width that can be served.** -/
theorem Listing.fitsIn_of_parse {text : String} {listing : Listing} {bits : ℕ}
    (hparse : Listing.parse text = .ok listing) (hbits : 3 ≤ bits) :
    listing.program.FitsIn bits := by
  intro word hmem
  have hword : word.toNat ≤ 7 := word_le_seven_of_parse hparse hmem
  have hpow : 2 ^ 3 ≤ 2 ^ bits := Nat.pow_le_pow_right (by norm_num) hbits
  omega

namespace Cli

variable {τ : Type} {text : String} {listing : Listing} {outcome : Outcome}

/-! ## The check of the model -/

/-- What the check of the model comes to: it passes unless the reference takes more steps than there
are cycles. -/
def budgetVerdict (config : Config) (outcome : Outcome) : Except Error Unit :=
  if outcome.steps ≤ config.maxCycles then .ok ()
  else .error (.failure (.timeout config.maxCycles))

/-- The result of the check of the model is that of the check without a log. -/
theorem verifyModel_snd_eq_check (log : τ → LogEntry → τ) (config : Config) (listing : Listing)
    (state : τ) :
    (verifyModel log config listing state).2 =
      ((Model.device.check config listing
        (Model.new listing.program.size config.registerBits)).2.map fun _ => ()).mapError
          .failure := by
  have hcheck := Model.device.checkLogged_snd_eq_check log config listing state
    (Model.new listing.program.size config.registerBits)
  simp only [verifyModel, ← hcheck]
  rcases Model.device.checkLogged log config listing state
    (Model.new listing.program.size config.registerBits) with ⟨_, _, _ | _⟩ <;> rfl

/-- **The check of the model is a matter of the budget**, for a listing that was parsed and has a
reference outcome. -/
theorem verifyModel_snd {config : Config} (log : τ → LogEntry → τ) (state : τ)
    (hparse : Listing.parse text = .ok listing)
    (hexpected : config.expected listing = .ok outcome) :
    (verifyModel log config listing state).2 = budgetVerdict config outcome := by
  -- the width has passed the test of the reference, so it holds the words of the program
  obtain ⟨⟨hwidth, -⟩, -⟩ :=
    Config.checkWidths_eq_ok_iff.mp (Config.expected_eq_ok_iff.mp hexpected).1
  have hlock : Lockstep config.registerBits listing.machine (Model.device.loaded listing
      (Model.new listing.program.size config.registerBits)) :=
    Model.lockstep_of_expected hexpected rfl rfl le_rfl (Listing.fitsIn_of_parse hparse hwidth)
  rw [verifyModel_snd_eq_check, budgetVerdict]
  by_cases hle : outcome.steps ≤ config.maxCycles
  · rw [(Model.check_of_steps_le hlock hexpected hle).1, if_pos hle]
    rfl
  · rw [(Model.check_of_lt_steps hlock hexpected (UInt64.not_le.mp hle)).1, if_neg hle]
    rfl

/-! ## The whole command -/

/-- The **answer** to a request for the listing in a text: what is printed, and whether all goes
well. -/
def Request.answer (request : Request) (text : String) : String × Except Error Unit :=
  match Listing.parse text with
  | .error error => ("", .error (.listing (.malformed error)))
  | .ok listing =>
    match request.config.expected listing with
    | .error failure => ("", .error (.failure failure))
    | .ok outcome =>
      (wordsText outcome.outputs.toList ++ "\n",
        if request.verify then budgetVerdict request.config outcome else .ok ())

/-- **The command keeps to the answer**, whatever the log. -/
theorem Request.perform_snd (log : τ → LogEntry → τ) (request : Request) (text : String)
    (state : τ) : (request.perform log (.ok text.toUTF8) state).2 = request.answer text := by
  unfold Request.perform Request.answer
  rw [Listing.load_toUTF8]
  cases hparse : Listing.parse text with
  | error error => rfl
  | ok listing =>
    simp only [Except.mapError]
    have hsame := Config.expectedLogged_snd_eq_expected log request.config listing
      (log state (.parsed request.path listing.registers listing.program.size))
    rw [← hsame]
    rcases hlogged : request.config.expectedLogged log listing
      (log state (.parsed request.path listing.registers listing.program.size))
      with ⟨state', failure | outcome⟩
    · rfl
    · rw [hlogged] at hsame
      cases request.verify with
      | false => rfl
      | true =>
        simp only [if_true, verifyModel_snd log state' hparse hsame.symm]

/-- A text **has a reference outcome** within some limits: it is a listing, and the listing has the
outcome. -/
def HasOutcome (config : Config) (text : String) (outcome : Outcome) : Prop :=
  ∃ listing, Listing.parse text = .ok listing ∧ config.expected listing = .ok outcome

/-- The answer for a text with a reference outcome. -/
theorem Request.answer_of_hasOutcome {request : Request}
    (h : HasOutcome request.config text outcome) :
    request.answer text =
      (wordsText outcome.outputs.toList ++ "\n",
        if request.verify then budgetVerdict request.config outcome else .ok ()) := by
  obtain ⟨listing, hparse, hexpected⟩ := h
  simp only [Request.answer, hparse, hexpected]

/-- The answer for a text without a reference outcome is an error, and nothing is printed. -/
theorem Request.exists_answer_of_not_hasOutcome {request : Request}
    (h : ¬∃ outcome, HasOutcome request.config text outcome) :
    ∃ error, request.answer text = ("", .error error) := by
  unfold Request.answer
  cases hparse : Listing.parse text with
  | error error => exact ⟨_, rfl⟩
  | ok listing =>
    cases hexpected : request.config.expected listing with
    | error failure => exact ⟨.failure failure, by simp only [hexpected]⟩
    | ok outcome => exact absurd ⟨outcome, listing, hparse, hexpected⟩ h

/-- **All goes well** exactly if there is a reference outcome and the check of the model, if it is
asked for, has a cycle for every step. -/
theorem Request.answer_snd_eq_ok_iff {request : Request} :
    (request.answer text).2 = .ok () ↔ ∃ outcome, HasOutcome request.config text outcome ∧
      (request.verify = false ∨ outcome.steps ≤ request.config.maxCycles) := by
  constructor
  · intro hok
    by_cases hsome : ∃ outcome, HasOutcome request.config text outcome
    · obtain ⟨outcome, houtcome⟩ := hsome
      refine ⟨outcome, houtcome, ?_⟩
      rw [Request.answer_of_hasOutcome houtcome, budgetVerdict] at hok
      cases hverify : request.verify with
      | false => exact Or.inl rfl
      | true =>
        by_cases hle : outcome.steps ≤ request.config.maxCycles
        · exact Or.inr hle
        · simp [hverify, hle] at hok
    · obtain ⟨error, herror⟩ := Request.exists_answer_of_not_hasOutcome hsome
      rw [herror] at hok
      cases hok
  · rintro ⟨outcome, houtcome, hbudget⟩
    rw [Request.answer_of_hasOutcome houtcome, budgetVerdict]
    rcases hbudget with hverify | hle
    · simp [hverify]
    · simp [hle]

/-- The response to arguments that are read as a request for a file with a text in it is the answer,
with some lines of log. -/
theorem exists_respondWith_eq_answer {parser : List String → Except Response Request}
    {arguments : List String} (filter : Option String)
    {read : String → Except ReadError ByteArray} {request : Request}
    (harguments : parser arguments = .ok request)
    (hread : read request.path = .ok text.toUTF8) :
    ∃ log, respondWith parser arguments filter read =
      match (request.answer text).2 with
      | .ok () => { exit := 0, output := (request.answer text).1, log }
      | .error error =>
        { exit := 1, output := (request.answer text).1, log, report := error.report } := by
  have hperform := Request.perform_snd
    (fun lines entry =>
      if (LogFilter.ofText filter).passes entry then lines.push entry.render else lines)
    request text #[]
  rw [← hread] at hperform
  simp only [respondWith, harguments]
  rw [← hperform]
  exact ⟨_, rfl⟩

/-- **The command, end to end.** Take any reader of arguments, any arguments that it reads as a
request, and a file with any text in it. If the text has a reference outcome, the command prints the
reference stream on one line; if not, it prints nothing. It succeeds exactly if there is such an
outcome and the check of the model either is not asked for or has a cycle for every reference step.
Where there is an outcome and the command fails all the same, the check was asked for, and has
failed by a timeout after the whole budget. -/
theorem respond_law (parser : List String → Except Response Request) (arguments : List String)
    (filter : Option String) (read : String → Except ReadError ByteArray) (request : Request)
    (text : String) (harguments : parser arguments = .ok request)
    (hread : read request.path = .ok text.toUTF8) :
    let response := respondWith parser arguments filter read
    (∀ outcome, HasOutcome request.config text outcome →
      response.output = wordsText outcome.outputs.toList ++ "\n") ∧
    ((¬∃ outcome, HasOutcome request.config text outcome) → response.output = "") ∧
    (response.exit = 0 ↔ ∃ outcome, HasOutcome request.config text outcome ∧
      (request.verify = false ∨ outcome.steps ≤ request.config.maxCycles)) ∧
    (∀ outcome, HasOutcome request.config text outcome → response.exit ≠ 0 →
      request.verify = true ∧
      response.report = (Error.failure (.timeout request.config.maxCycles)).report ∧
      ∀ (τ : Type) (log : τ → LogEntry → τ) (state : τ),
        (request.perform log (read request.path) state).2.2
          = .error (.failure (.timeout request.config.maxCycles))) := by
  intro response
  obtain ⟨log, hresponse⟩ := exists_respondWith_eq_answer filter harguments hread
  have houtput : response.output = (request.answer text).1 := by
    rw [show response = _ from hresponse]
    cases (request.answer text).2 <;> rfl
  have hexit : response.exit = 0 ↔ (request.answer text).2 = .ok () := by
    rw [show response = _ from hresponse]
    cases (request.answer text).2 <;> simp
  refine ⟨fun outcome houtcome => ?_, fun hnone => ?_, ?_, fun outcome houtcome hfail => ?_⟩
  · rw [houtput, Request.answer_of_hasOutcome houtcome]
  · obtain ⟨error, herror⟩ := Request.exists_answer_of_not_hasOutcome hnone
    rw [houtput, herror]
  · rw [hexit, Request.answer_snd_eq_ok_iff]
  · -- of the two conditions for success the first holds, so it is the second that fails
    have hbudget : ¬(request.verify = false ∨ outcome.steps ≤ request.config.maxCycles) := by
      intro hbudget
      exact hfail (hexit.mpr (Request.answer_snd_eq_ok_iff.mpr ⟨outcome, houtcome, hbudget⟩))
    rw [not_or, Bool.not_eq_false] at hbudget
    have htimeout : (request.answer text).2
        = .error (.failure (.timeout request.config.maxCycles)) := by
      rw [Request.answer_of_hasOutcome houtcome, budgetVerdict, if_neg hbudget.2, if_pos hbudget.1]
    refine ⟨hbudget.1, ?_, fun τ log state => ?_⟩
    · rw [show response = _ from hresponse, htimeout]
    · rw [hread, Request.perform_snd, htimeout]

/-- A loop of two rounds takes six steps. With five cycles the command prints the stream, which is
complete, and then reports the timeout of the model. -/
theorem respond_law_short_budget :
    let arguments := ["loop", "--verify", "--max-cycles=5", "--register-bits", "3"]
    let text := "Register A: 3\nRegister B: 0\nRegister C: 0\n\nProgram: 0,1,5,4,3,0\n"
    let request : Request :=
      { path := "loop", config := { maxCycles := 5, registerBits := 3 }, verify := true }
    let response := respond arguments none fun _ => .ok text.toUTF8
    readRequest arguments = .ok request ∧
      HasOutcome request.config text
        { registers := { ip := 6 }, outputs := #[1, 0], steps := 6 } ∧
      response.output = "1,0\n" ∧ response.exit ≠ 0 ∧
      response.report = "Error: device did not halt within 5 cycles" := by
  intro arguments text request response
  have harguments : readRequest arguments = .ok request := by decide +kernel
  have houtcome : HasOutcome request.config text
      { registers := { ip := 6 }, outputs := #[1, 0], steps := 6 } :=
    ⟨{ a := 3, b := 0, c := 0, program := ⟨#[0, 1, 5, 4, 3, 0], rfl⟩ }, by decide +kernel,
      by decide +kernel⟩
  obtain ⟨hprinted, -, -, hreport⟩ := respond_law readRequest arguments none
    (fun _ => .ok text.toUTF8) request text harguments rfl
  have hfail : response.exit ≠ 0 := by decide +kernel
  exact ⟨harguments, houtcome, hprinted _ houtcome, hfail,
    (hreport _ houtcome hfail).2.1.trans (by decide +kernel)⟩

end Cli

end ThreeBit
