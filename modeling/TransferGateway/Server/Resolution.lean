import TransferGateway.Dns.Shares
import TransferGateway.Server.Connection

/-!
# The resolution of a target

What an answer about SRV records makes of a target, and when the counter of the selections moves.
-/

namespace TransferGateway

/-- The name of a record's target is the root's, or it has something other than dots. -/
def RData.WellNamed : RData → Prop
  | .srv _ _ _ target => target = "." ∨ ∃ c ∈ target.toList, c ≠ '.'
  | .other => True

lemma RData.usable_eq_some {answer : RData} {record : SrvTarget} :
    answer.usable = some record ↔ ∃ name,
      answer = .srv record.priority record.weight record.port name ∧ name ≠ "." ∧
        record.port ≠ 0 ∧ record.host = trimDnsRoot name := by
  obtain ⟨priority, weight, host, port⟩ := record
  cases answer with
  | other => simp [usable]
  | srv priority' weight' port' name =>
    rw [usable]
    split
    · rename_i hunusable
      constructor
      · intro h
        cases h
      · rintro ⟨name', heq, hname, hport, -⟩
        cases heq
        exact absurd hunusable (by simp [hname, hport])
    · rename_i husable
      rw [not_or] at husable
      constructor
      · intro h
        cases h
        exact ⟨name, rfl, husable.1, husable.2, rfl⟩
      · rintro ⟨name', heq, -, -, hhost⟩
        cases heq
        cases hhost
        rfl

/-- A host of a record that names something is not the root. -/
lemma trimDnsRoot_ne_root {name : String} (h : ∃ c ∈ name.toList, c ≠ '.') :
    trimDnsRoot name ≠ "." := by
  obtain ⟨c, hc, hne⟩ := h
  have hkept : trimEndMatches name '.' ≠ "" := by
    intro hempty
    have hdrop : name.toList.rdropWhile (· = '.') = [] := by
      have := congrArg String.toList hempty
      simpa [trimEndMatches] using this
    rw [List.rdropWhile_eq_nil_iff] at hdrop
    simpa [hne] using hdrop c hc
  rw [trimDnsRoot, if_neg hkept]
  intro hroot
  have hlast := congrArg String.toList hroot
  rw [trimEndMatches, String.toList_ofList] at hlast
  have hdot := List.rdropWhile_last_not (· = '.') name.toList (by rw [hlast]; simp)
  simp [hlast] at hdot

namespace Conn

/-- The lookups get this answer. -/
def answered (answers : List RData) : Env ConnChoice Conn :=
  { shared with admits := fun c => c.answers = .ok answers }

/-- The sequence number that an operation takes. -/
def taken (β : Type) : ConnOp β → ConnChoice → Conn → Option UInt64
  | .inr .fetchAdd, _, s => some s.sequence
  | _, _, _ => none

end Conn

/-- What a target with an answer about its records is resolved to, with the sequence numbers taken
for it. -/
structure Resolved (target : LineTarget) (answers : List RData)
    (r : Except Panic (Except String LineTarget)) (taken : List UInt64) : Prop where
  error : (∃ message, r = .ok (.error message)) ↔
    answers.filterMap RData.usable = [] ∧ ∃ answer ∈ answers, answer.isUnavailable = true
  unchanged : r = .ok (.ok target) ↔
    answers.filterMap RData.usable = [] ∧ ∀ answer ∈ answers, answer.isUnavailable = false
  untaken : answers.filterMap RData.usable = [] → taken = []
  selected : answers.filterMap RData.usable ≠ [] → ∃ record ∈ answers.filterMap RData.usable,
    (∀ other ∈ answers.filterMap RData.usable, record.priority ≤ other.priority) ∧
    record.port ≠ 0 ∧ record.host ≠ "." ∧
    r = .ok (.ok { host := record.host, port := record.port, resolveSrv := false }) ∧
    ∃ sequence, taken = [sequence] ∧
      selectSrvTarget (answers.filterMap RData.usable) sequence = some record

lemma usable_spec {answers : List RData} (hnames : ∀ answer ∈ answers, answer.WellNamed)
    {record : SrvTarget} (h : record ∈ answers.filterMap RData.usable) :
    record.port ≠ 0 ∧ record.host ≠ "." := by
  obtain ⟨answer, hmem, husable⟩ := List.mem_filterMap.mp h
  obtain ⟨name, rfl, hname, hport, hhost⟩ := RData.usable_eq_some.mp husable
  refine ⟨hport, ?_⟩
  rw [hhost]
  exact trimDnsRoot_ne_root ((hnames _ hmem).resolve_left hname)

namespace Resolved

variable {target : LineTarget} {answers : List RData}

/-- An answer that says there is no service is an error, whatever the message. -/
lemma of_unavailable (hempty : answers.filterMap RData.usable = [])
    (h : ∃ answer ∈ answers, answer.isUnavailable = true) (message : String) :
    Resolved target answers (.ok (.error message)) [] := by
  refine ⟨iff_of_true ⟨message, rfl⟩ ⟨hempty, h⟩, iff_of_false (fun heq => by cases heq) ?_,
    fun _ => rfl, fun hne => absurd hempty hne⟩
  rintro ⟨-, hnone⟩
  obtain ⟨answer, hmem, hanswer⟩ := h
  rw [hnone answer hmem] at hanswer
  cases hanswer

/-- An answer that says nothing leaves the target as it is. -/
lemma of_silent (hempty : answers.filterMap RData.usable = [])
    (h : ∀ answer ∈ answers, answer.isUnavailable = false) :
    Resolved target answers (.ok (.ok target)) [] := by
  refine ⟨iff_of_false ?_ ?_, iff_of_true rfl ⟨hempty, h⟩, fun _ => rfl,
    fun hne => absurd hempty hne⟩
  · rintro ⟨message, heq⟩
    cases heq
  · rintro ⟨-, answer, hmem, hanswer⟩
    rw [h answer hmem] at hanswer
    cases hanswer

/-- The selected record replaces the target, and the flag is cleared. -/
lemma of_selected (hsrv : target.resolveSrv = true)
    (hnames : ∀ answer ∈ answers, answer.WellNamed)
    (hne : answers.filterMap RData.usable ≠ []) {sequence : UInt64} {record : SrvTarget}
    (hlowest : record ∈ SrvTarget.lowest (answers.filterMap RData.usable))
    (h : selectSrvTarget (answers.filterMap RData.usable) sequence = some record) :
    Resolved target answers
      (.ok (.ok { host := record.host, port := record.port, resolveSrv := false }))
      [sequence] := by
  obtain ⟨hmem, hleast⟩ := SrvTarget.mem_lowest.mp hlowest
  obtain ⟨hport, hhost⟩ := usable_spec hnames hmem
  refine ⟨iff_of_false ?_ fun hempty => hne hempty.1, iff_of_false ?_ fun hempty => hne hempty.1,
    fun hempty => absurd hempty hne,
    fun _ => ⟨record, hmem, hleast, hport, hhost, rfl, sequence, rfl, h⟩⟩
  · rintro ⟨message, heq⟩
    cases heq
  · rintro ⟨⟩
    cases hsrv

end Resolved

/-- A target whose records are looked up gives an error when the answer says there is no service, and
it stays as it is when the answer says nothing. Otherwise it becomes a usable record of the lowest
priority value, for which one sequence number is taken, and no step of the selection can fail. -/
theorem MinecraftDnsResolver.resolveTarget_spec [StdParse] {dns : MinecraftDnsResolver}
    {target : LineTarget} {resolver : Resolver} {query : String} {answers : List RData}
    (hsrv : target.resolveSrv = true) (hresolver : dns.resolver = some resolver)
    (hquery : minecraftSrvQueryName target.host = some query)
    (hnames : ∀ answer ∈ answers, answer.WellNamed) (s : Conn) :
    (dns.resolveTarget target target.resolveSrv).wp (Prog.noting Conn.handle Conn.taken)
      (Prog.unnoted (Conn.answered answers))
      (fun r t => Resolved target answers r (t.notes.filterMap id)) ⟨s, []⟩ ∧
    let records := answers.filterMap RData.usable
    (records ≠ [] → ∀ sequence, 0 < (SrvTarget.candidates records).length ∧
      (selectSrvTarget records sequence).isSome = true ∧
      selectSrvTarget records sequence =
        if SrvTarget.totalWeight records = 0 then
          (SrvTarget.candidates records)[
            sequence.toNat % (SrvTarget.candidates records).length]?
        else selectByWeight (sequence.toNat % (SrvTarget.totalWeight records + 1))
          (SrvTarget.candidates records) 0) := by
  refine ⟨?_, fun hne sequence => ?_⟩
  · rw [resolveTarget, hsrv, hresolver, hquery]
    simp only [Bool.not_true, Bool.false_eq_true, if_false, serve, Prog.wp_bind, Prog.wp_perform]
    intro t ht c hc
    have hanswers : c.answers = .ok answers := hc
    have hnotes : t.notes = [] := ht.2
    simp only [Prog.noting, Conn.step, hanswers, hnotes, Conn.taken, List.nil_append]
    by_cases hempty : answers.filterMap RData.usable = []
    · rw [if_pos (List.isEmpty_iff.mpr hempty)]
      split
      · rename_i hunavailable
        exact .of_unavailable hempty (List.any_eq_true.mp hunavailable) _
      · rename_i havailable
        exact .of_silent hempty (by simpa using havailable)
    · rw [if_neg (fun h => hempty (List.isEmpty_iff.mp h))]
      simp only [Prog.wp_bind, Prog.wp_perform, Prog.noting, Conn.step]
      intro t' ht' c' _
      have hnotes' : t'.notes = [none] := ht'.2
      obtain ⟨record, hrecord, hselect⟩ :=
        SrvTarget.selectSrvTarget_mem hempty t'.state.sequence
      simp only [hselect, Prog.wp_bind, Prog.wp_perform]
      intro t'' ht'' c'' _
      have hnotes'' : t''.notes = [none, some t'.state.sequence] := by
        rw [ht''.2, hnotes']
        rfl
      simp only [Prog.noting, Conn.taken, hnotes'']
      exact .of_selected hsrv hnames hempty hrecord hselect
  · have hcandidates := SrvTarget.candidates_ne_nil hne
    obtain ⟨record, -, hrecord⟩ := SrvTarget.selectSrvTarget_mem hne sequence
    refine ⟨List.length_pos_iff.mpr hcandidates, ?_, SrvTarget.selectSrvTarget_scan hne sequence⟩
    rw [hrecord]
    rfl

/-- An answer with the root, a port zero and two usable records. -/
def mixedAnswers : List RData :=
  [.srv 10 0 25565 ".", .other, .srv 10 5 0 "c.example.com.", .srv 20 1 25565 "b.example.com.",
   .srv 10 1 25577 "a.example.com."]

theorem resolveTarget_spec_mixed :
    letI := dottedParse
    let target : LineTarget := ⟨"play.example.com", 25565, true⟩
    let s : Conn := ⟨⟨[], []⟩, fun _ => 0, 41, []⟩
    (MinecraftDnsResolver.resolveTarget ⟨some ⟨0⟩⟩ target target.resolveSrv).wp
      (Prog.noting Conn.handle Conn.taken) (Prog.unnoted (Conn.answered mixedAnswers))
      (fun r t => r = .ok (.ok ⟨"a.example.com", 25577, false⟩) ∧
        (t.notes.filterMap id).length = 1) ⟨s, []⟩ := by
  let _ := dottedParse
  intro target s
  have hnames : ∀ answer ∈ mixedAnswers, answer.WellNamed := by
    simp [mixedAnswers, RData.WellNamed]
  have hquery : minecraftSrvQueryName target.host = some "_minecraft._tcp.play.example.com." := by
    decide
  have hresolver : (⟨some ⟨0⟩⟩ : MinecraftDnsResolver).resolver = some ⟨0⟩ := rfl
  have hsrv : target.resolveSrv = true := rfl
  obtain ⟨hwp, -⟩ := MinecraftDnsResolver.resolveTarget_spec hsrv hresolver hquery hnames s
  apply Prog.wp_mono hwp
  intro r t h
  have husable : mixedAnswers.filterMap RData.usable =
      [⟨20, 1, "b.example.com", 25565⟩, ⟨10, 1, "a.example.com", 25577⟩] := by decide
  obtain ⟨record, hmem, hleast, -, -, hr, sequence, htaken, -⟩ :=
    h.selected (by rw [husable]; simp)
  rw [husable] at hmem hleast
  refine ⟨?_, by rw [htaken]; rfl⟩
  rw [hr]
  rcases List.mem_pair.mp hmem with rfl | rfl
  · have := hleast ⟨10, 1, "a.example.com", 25577⟩ (by simp)
    revert this
    decide
  · rfl

end TransferGateway
