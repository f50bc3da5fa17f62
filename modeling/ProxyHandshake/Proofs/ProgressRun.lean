import ProxyHandshake.Progress

/-!
# Responses and retries noted one after another

What an exchange knows of the proxy is told by the history of what it noted.  The last refusal says which
challenges stand, whatever other responses came behind it, and only the first retry is granted.
-/

namespace ProxyHandshake

/-! ## Operations -/

inductive ProgressOperation where
  | observe (response : Response)
  | beginRetry
deriving DecidableEq

namespace ProgressOperation

/-- The response that an operation notes, if it is a refusal. -/
def refusal? : ProgressOperation → Option Response
  | .observe response => if response.isAuthRequired then some response else none
  | .beginRetry => none

/-- The refusals that the operations note, in order. -/
def refusals (operations : List ProgressOperation) : List Response :=
  operations.filterMap refusal?

end ProgressOperation

namespace Progress

/-- What an operation answers, and the progress after it.  An observed response is answered by whether
it is a refusal that leaves an offer of negotiation behind. -/
def perform (progress : Progress) : ProgressOperation → Bool × Progress
  | .observe response =>
    let after := progress.observe response
    (response.isAuthRequired && after.offersNegotiate, after)
  | .beginRetry => (progress.canRetry, progress.beginRetry)

def run (progress : Progress) : List ProgressOperation → List Bool × Progress
  | [] => ([], progress)
  | operation :: rest =>
    let (answer, after) := progress.perform operation
    let (answers, last) := after.run rest
    (answer :: answers, last)

theorem run_append (progress : Progress) (before later : List ProgressOperation) :
    progress.run (before ++ later) =
      ((progress.run before).1 ++ ((progress.run before).2.run later).1,
        ((progress.run before).2.run later).2) := by
  induction before generalizing progress with
  | nil => rfl
  | cons operation before ih => simp [run, ih]

theorem length_run (progress : Progress) (operations : List ProgressOperation) :
    (progress.run operations).1.length = operations.length := by
  induction operations generalizing progress with
  | nil => rfl
  | cons operation operations ih => simp [run, ih]

/-! ## One refusal -/

/-- The offer that a refusal leaves behind is told by the refusal alone. -/
theorem answer_observe (progress : Progress) (response : Response) :
    (progress.perform (.observe response)).1 = asksToNegotiate response := by
  cases hrequired : response.isAuthRequired with
  | false => simp [perform, asksToNegotiate, hrequired]
  | true => simp [perform, asksToNegotiate, observe, offersNegotiate, negotiate?, hrequired]

theorem asksToNegotiate_iff (response : Response) :
    asksToNegotiate response = true ↔
      response.status.code = 407 ∧
      ∃ challenge ∈ Challenge.readAll (response.proxyHeaders.values .proxyAuthenticate),
        Text.lower challenge.scheme = "negotiate" := by
  have hscheme (challenge : Challenge) :
      challenge.isNegotiate = true ↔ Text.lower challenge.scheme = "negotiate" := by
    rw [Challenge.isNegotiate, Text.sameLetters, beq_iff_eq, ← String.ofList_inj]
    rfl
  rw [asksToNegotiate, Bool.and_eq_true, response.isAuthRequired_iff, Challenge.firstNegotiate?,
    List.find?_isSome]
  simp only [hscheme]
  rfl

/-- The proxy expects another token only where it offers to negotiate. -/
theorem offersNegotiate_of_wantsContinuation
    {progress : Progress} (hwants : progress.wantsContinuation = true) :
    progress.offersNegotiate = true := by
  obtain ⟨challenge, hoffer, -⟩ := (Option.any_eq_true _ _).mp hwants
  rw [offersNegotiate, hoffer]
  rfl

/-! ## Histories -/

/-- Whether a progress is what the operations leave behind. -/
structure Records (progress : Progress) (operations : List ProgressOperation) : Prop where
  challenged_iff :
    progress.challenged = true ↔
      ∃ response, .observe response ∈ operations ∧ response.status.code = 407
  challenges_eq :
    progress.challenges =
      match (ProgressOperation.refusals operations).getLast? with
      | none => []
      | some response => Challenge.readAll (response.proxyHeaders.values .proxyAuthenticate)
  retries_eq : progress.retries = min 1 (operations.count .beginRetry)

theorem records_start : start.Records [] where
  challenged_iff := by simp [start]
  challenges_eq := rfl
  retries_eq := rfl

section

variable {progress : Progress} {operations : List ProgressOperation}

theorem Records.observe (hrecords : progress.Records operations) (response : Response) :
    (progress.observe response).Records (operations ++ [.observe response]) := by
  cases hrequired : response.isAuthRequired with
  | false =>
      have hother : ¬ response.status.code = 407 := by
        rw [← response.isAuthRequired_iff, hrequired]
        exact Bool.false_ne_true
      have hsame : progress.observe response = progress := by simp [Progress.observe, hrequired]
      have hrefusals :
          ProgressOperation.refusals (operations ++ [.observe response]) =
            ProgressOperation.refusals operations := by
        simp [ProgressOperation.refusals, ProgressOperation.refusal?, hrequired]
      rw [hsame]
      constructor
      · rw [hrecords.challenged_iff]
        simp [or_and_right, exists_or, hother]
      · rw [hrefusals, hrecords.challenges_eq]
      · simpa using hrecords.retries_eq
  | true =>
      have hrefused := response.isAuthRequired_iff.mp hrequired
      have hrefusals :
          ProgressOperation.refusals (operations ++ [.observe response]) =
            ProgressOperation.refusals operations ++ [response] := by
        simp [ProgressOperation.refusals, ProgressOperation.refusal?, hrequired]
      constructor
      · have hchallenged : (progress.observe response).challenged = true := by
          simp [Progress.observe, hrequired]
        exact iff_of_true hchallenged ⟨response, by simp, hrefused⟩
      · rw [hrefusals, List.getLast?_concat]
        simp [Progress.observe, hrequired, Response.challenges, Response.challengeValues]
      · simpa [Progress.observe, hrequired] using hrecords.retries_eq

theorem Records.canRetry_iff (hrecords : progress.Records operations) :
    progress.canRetry = true ↔ .beginRetry ∉ operations := by
  rw [canRetry, decide_eq_true_iff, hrecords.retries_eq, maxRetries, ← List.count_eq_zero]
  omega

theorem Records.beginRetry (hrecords : progress.Records operations) :
    progress.beginRetry.Records (operations ++ [.beginRetry]) := by
  have hkept :
      progress.beginRetry.challenged = progress.challenged ∧
        progress.beginRetry.challenges = progress.challenges := by
    unfold Progress.beginRetry
    split <;> exact ⟨rfl, rfl⟩
  constructor
  · rw [hkept.1, hrecords.challenged_iff]
    simp
  · rw [hkept.2, hrecords.challenges_eq]
    simp [ProgressOperation.refusals, ProgressOperation.refusal?]
  · have hcount := hrecords.retries_eq
    have hretries :
        progress.beginRetry.retries =
          if progress.retries < 1 then progress.retries + 1 else progress.retries := by
      by_cases hfree : progress.retries < 1
      · simp [Progress.beginRetry, canRetry, maxRetries, hfree]
      · simp [Progress.beginRetry, canRetry, maxRetries, hfree]
    rw [hretries, List.count_append, List.count_singleton_self]
    split <;> omega

theorem Records.perform (hrecords : progress.Records operations) (operation : ProgressOperation) :
    (progress.perform operation).2.Records (operations ++ [operation]) := by
  cases operation with
  | observe response => exact hrecords.observe response
  | beginRetry => exact hrecords.beginRetry

theorem Records.run (hrecords : progress.Records operations) (later : List ProgressOperation) :
    (progress.run later).2.Records (operations ++ later) := by
  induction later generalizing progress operations with
  | nil =>
      rw [List.append_nil]
      exact hrecords
  | cons operation later ih =>
      rw [← List.singleton_append, ← List.append_assoc]
      exact ih (hrecords.perform operation)

end

/-- What is answered to an operation behind others: an observed response is a refusal that offers to
negotiate, and a retry is the first one. -/
def Answers (before : List ProgressOperation) : ProgressOperation → Bool → Prop
  | .observe response, answer =>
    answer = true ↔
      response.status.code = 407 ∧
      ∃ challenge ∈ Challenge.readAll (response.proxyHeaders.values .proxyAuthenticate),
        Text.lower challenge.scheme = "negotiate"
  | .beginRetry, answer => answer = true ↔ .beginRetry ∉ before

theorem Records.answers
    {progress : Progress} {before : List ProgressOperation} (hrecords : progress.Records before)
    (operation : ProgressOperation) : Answers before operation (progress.perform operation).1 := by
  cases operation with
  | observe response =>
      rw [answer_observe]
      exact asksToNegotiate_iff response
  | beginRetry => exact hrecords.canRetry_iff

/-- Whatever is noted in whatever order: the progress is told by the refusals and the number of retries
alone, every operation gets its answer, and a proxy that expects another token offers to negotiate. -/
theorem run_start_records (operations : List ProgressOperation) :
    (start.run operations).2.Records operations ∧
    ((start.run operations).2.wantsContinuation = true →
      (start.run operations).2.offersNegotiate = true) ∧
    ∀ before operation later, operations = before ++ operation :: later →
      ∃ answer, (start.run operations).1[before.length]? = some answer ∧
        Answers before operation answer := by
  refine ⟨records_start.run operations, offersNegotiate_of_wantsContinuation, ?_⟩
  rintro before operation later rfl
  have hbefore : (start.run before).2.Records before := records_start.run before
  refine ⟨((start.run before).2.perform operation).1, ?_, hbefore.answers operation⟩
  rw [run_append]
  simp [run, length_run]

/-! ### A proxy that asks, lets through and is asked again -/

/-- A refusal whose challenges stand in the headers of the proxy alone. -/
def refusal : Response where
  status := .proxyAuthenticationRequired
  headers := .empty
  body := []
  proxyHeaders :=
    ⟨[(.proxyAuthenticate, ⟨Utf8.encode "Basic realm=x, NEGOTIATE YWJj", by decide, false⟩)]⟩

def wavering : List ProgressOperation :=
  [.observe refusal, .beginRetry, .observe (.ofProxy .ok .empty []), .beginRetry]

/-- The response that is let through leaves the challenges, and the second retry is not granted. -/
theorem run_start_records_wavering :
    wavering = wavering.take 3 ++ .beginRetry :: [] ∧
      (start.run wavering).1 = [true, true, false, false] ∧
      (start.run wavering).2.challenges =
        [⟨"Basic", none, [("realm", "x")]⟩, ⟨"NEGOTIATE", some "YWJj", []⟩] ∧
      (start.run wavering).2.Records wavering ∧
      (start.run wavering).2.wantsContinuation = true ∧
      (start.run wavering).2.offersNegotiate = true ∧
      ∃ answer, (start.run wavering).1[3]? = some answer ∧
        Answers (wavering.take 3) .beginRetry answer := by
  have hsplit : wavering = wavering.take 3 ++ .beginRetry :: [] := rfl
  have hwants : (start.run wavering).2.wantsContinuation = true := rfl
  obtain ⟨hrecords, hoffers, hanswers⟩ := run_start_records wavering
  exact ⟨hsplit, rfl, rfl, hrecords, hwants, hoffers hwants, hanswers _ _ _ hsplit⟩

end Progress

end ProxyHandshake
