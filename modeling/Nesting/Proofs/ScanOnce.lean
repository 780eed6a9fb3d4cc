import Nesting.Proofs.ScanReport

/-!
# A scanner scans once

The report that a scanner hands out is not a copy. Who holds it may change it, and the next one who
asks the scanner for its report gets it as it has been changed. `Scanner.step` has the report as a
part of the scanner and so takes it for granted that there is only one. Here reports are kept by
address instead. A scanner remembers the address of its report, its holder that of the report handed
out last, and a change is made at an address; that both addresses are always the same is then
something to prove (`Session.Consistent`).

Once there is a report, every step does one thing to it and leaves all else as it is
(`Session.Holds.step_eq`), also where it ends by a fault because the report lacks what an earlier
step took out of it. What holds after any number of steps follows by induction over them, and so
does that the scanner with the report inside answers in the same way
(`Session.Consistent.steps_agree`).
-/

namespace Nesting

/-! ## What a step does to a report -/

namespace Report

variable {r : Report}

/-- The report after a step. -/
def change (r : Report) : Step → Report
  | .dropTop => { r with top := [] }
  | .unclose => { r with closer := none }
  | _ => r

/-- What a step answers when there is a report; `same` says whether a scan hands out the report that
is held already. -/
def answer (r : Report) (t : Text) (same : Bool) (logged : Nat) : Step → StepAnswer
  | .scan => .scanned same r.outcome r.depth logged
  | .write => .ofText r.write.text
  | .diagnostics => .ofText (r.writeDiagnostics t).text
  | .failure =>
    match r.failure? with
    | .ok failure => .failure failure
    | .error fault => .fault fault
  | .dropTop => .dropped r.depth
  | .unclose => .unclosed r.outcome

theorem outcome_change (r : Report) (action : Step) : (r.change action).outcome = r.outcome := by
  cases action <;> rfl

theorem depth_change (r : Report) (action : Step) : (r.change action).depth = r.depth := by
  cases action <;> rfl

/-- **No step changes the outcome or the depth of a report.** -/
theorem finding_foldl_change (r : Report) (actions : List Step) :
    (actions.foldl change r).outcome = r.outcome ∧ (actions.foldl change r).depth = r.depth := by
  induction actions generalizing r with
  | nil => exact ⟨rfl, rfl⟩
  | cons action actions ih =>
    rw [List.foldl_cons, (ih _).1, (ih _).2, outcome_change, depth_change]
    exact ⟨rfl, rfl⟩

/-- A step that ends by a fault has not changed the report. -/
theorem change_of_fault {t : Text} {same : Bool} {logged : Nat} {action : Step} {fault : Fault}
    (h : r.answer t same logged action = .fault fault) : r.change action = r := by
  cases action with
  | scan => rfl
  | write => rfl
  | diagnostics => rfl
  | failure => rfl
  | dropTop => cases h
  | unclose => cases h

end Report

/-- **With a report, a step of a scanner changes the report and nothing else.** -/
theorem Scanner.step_of_report {s : Scanner} {r : Report} (h : s.report = some r) (action : Step) :
    s.step action
      = (r.answer s.text true s.log.length action,
          { s with report := some (r.change action) }) := by
  obtain ⟨name, text, options, state, report, log⟩ := s
  cases h
  cases action with
  | scan => rfl
  | write => rfl
  | diagnostics => rfl
  | failure =>
    unfold Scanner.step Report.answer
    dsimp only
    cases r.failure? <;> rfl
  | dropTop => rfl
  | unclose => rfl

/-- **Without a report, only a scan does anything.** -/
theorem Scanner.step_of_none {s : Scanner} (h : s.report = none) {action : Step}
    (haction : action ≠ .scan) : s.step action = (.fault .missingEntry, s) := by
  unfold Scanner.step
  rw [h]
  cases action with
  | scan => exact absurd rfl haction
  | write => rfl
  | diagnostics => rfl
  | failure => rfl
  | dropTop => rfl
  | unclose => rfl

/-- The first scan answers that its report is a new one, and that there is one record more. -/
theorem Scanner.step_scan_of_none {s : Scanner} (h : s.report = none) :
    s.step .scan
      = ((Report.ofHalt s.name s.options s.text (Scan.run s.state s.text)).answer s.text false
          (s.log.length + 1) .scan,
        { s with
          state := { (Scan.run s.state s.text).state with stack := [] }
          report := some (Report.ofHalt s.name s.options s.text (Scan.run s.state s.text))
          log := s.log ++ [Scanner.logRecord s.name (Scan.run s.state s.text)] }) := by
  obtain ⟨name, text, options, state, report, log⟩ := s
  cases h
  refine Prod.ext ?_ rfl
  show StepAnswer.scanned false _ _ (log ++ [_]).length = .scanned false _ _ (log.length + 1)
  rw [List.length_append]
  rfl

/-! ## Reports by address -/

/-- A scanner that knows the address of its report. -/
structure SharingScanner where
  name : String
  text : Text
  options : Options
  state : Scan.State := {}
  /-- The address of the report, once there is one. -/
  report : Option Nat := none
  log : List LogRecord := []

/-- **A scanner and someone who uses it**: the reports that there are, by address, and which of them
was handed out last. -/
structure Session where
  scanner : SharingScanner
  reports : List Report := []
  last : Option Nat := none

namespace Session

/-- A new scanner in use. -/
def new (s : Scanner) : Session where
  scanner :=
    { name := s.name, text := s.text, options := s.options, state := s.state, log := s.log }

/-- Asks the scanner for its report: the address that it hands out. The first time, this is that of
a new report. -/
def scan (s : Session) : Nat × Session :=
  match s.scanner.report with
  | some address => (address, { s with last := some address })
  | none =>
    let halt := Scan.run s.scanner.state s.scanner.text
    let address := s.reports.length
    (address,
      { scanner :=
          { s.scanner with
            state := { halt.state with stack := [] }
            report := some address
            log := s.scanner.log ++ [Scanner.logRecord s.scanner.name halt] }
        reports := s.reports ++ [Report.ofHalt s.scanner.name s.scanner.options s.scanner.text halt]
        last := some address })

/-- The report handed out last, with its address. -/
def held? (s : Session) : Option (Nat × Report) :=
  s.last.bind fun address => s.reports[address]?.map (address, ·)

/-- Does one step. A scan asks the scanner; any other step is about the report handed out last. -/
def step (s : Session) (action : Step) : StepAnswer × Session :=
  let next := if action = .scan then s.scan.2 else s
  match next.held? with
  | none => (.fault .missingEntry, s)
  | some (address, report) =>
    (report.answer next.scanner.text (s.last = some address) next.scanner.log.length action,
      { next with reports := next.reports.set address (report.change action) })

/-- Does steps one after the other. -/
def steps (s : Session) : List Step → List StepAnswer × Session
  | [] => ([], s)
  | action :: rest =>
    let (answer, next) := s.step action
    let (answers, last) := next.steps rest
    (answer :: answers, last)

theorem steps_cons (s : Session) (action : Step) (actions : List Step) :
    s.steps (action :: actions)
      = ((s.step action).1 :: ((s.step action).2.steps actions).1,
        ((s.step action).2.steps actions).2) :=
  rfl

theorem steps_append (s : Session) (actions actions' : List Step) :
    s.steps (actions ++ actions')
      = ((s.steps actions).1 ++ ((s.steps actions).2.steps actions').1,
        ((s.steps actions).2.steps actions').2) := by
  induction actions generalizing s with
  | nil => rfl
  | cons action actions ih =>
    rw [List.cons_append, steps_cons, ih]
    rfl

/-! ## A report for good -/

/-- **The scanner and its user have the same report**, at the same address. -/
structure Holds (s : Session) (address : Nat) (r : Report) : Prop where
  scanner : s.scanner.report = some address
  last : s.last = some address
  report : s.reports[address]? = some r

variable {s : Session} {address : Nat} {r : Report}

theorem Holds.scan_eq (h : s.Holds address r) : s.scan = (address, s) := by
  unfold scan
  rw [h.scanner]
  dsimp only
  rw [← h.last]

theorem Holds.held?_eq (h : s.Holds address r) : s.held? = some (address, r) := by
  unfold held?
  rw [h.last, Option.bind_some, h.report]
  rfl

/-- To put the report where it is changes nothing. -/
theorem Holds.set_self (h : s.Holds address r) :
    ({ s with reports := s.reports.set address r } : Session) = s := by
  obtain ⟨hlt, hget⟩ := List.getElem?_eq_some_iff.mp h.report
  rw [← hget, List.set_getElem_self]

/-- **With a report, a step changes the report at its address and nothing else.** -/
theorem Holds.step_eq (h : s.Holds address r) (action : Step) :
    s.step action = (r.answer s.scanner.text true s.scanner.log.length action,
      { s with reports := s.reports.set address (r.change action) }) := by
  have hnext : (if action = .scan then s.scan.2 else s) = s := by
    rw [h.scan_eq, ite_self]
  unfold step
  simp only [hnext, h.held?_eq, h.last, decide_true]

/-- The report is still there after a step, as the step has changed it. -/
theorem Holds.step (h : s.Holds address r) (action : Step) :
    (s.step action).2.Holds address (r.change action) := by
  rw [h.step_eq]
  refine ⟨h.scanner, h.last, ?_⟩
  obtain ⟨hlt, -⟩ := List.getElem?_eq_some_iff.mp h.report
  exact List.getElem?_set_self hlt

/-- **Steps change the report at its address, one after the other, and nothing else.** -/
theorem Holds.steps (h : s.Holds address r) (actions : List Step) :
    (s.steps actions).2.Holds address (actions.foldl Report.change r) ∧
      (s.steps actions).2.scanner = s.scanner ∧
      (s.steps actions).2.reports.length = s.reports.length := by
  induction actions generalizing s r with
  | nil => exact ⟨h, rfl, rfl⟩
  | cons action actions ih =>
    obtain ⟨hholds, hscanner, hlength⟩ := ih (h.step action)
    rw [steps_cons]
    refine ⟨hholds, hscanner.trans ?_, hlength.trans ?_⟩
    · rw [h.step_eq]
    · rw [h.step_eq, List.length_set]

/-! ## Before the report -/

/-- **Nothing has been scanned**: the scanner has no report, and its user holds none. -/
structure Idle (s : Session) : Prop where
  scanner : s.scanner.report = none
  last : s.last = none

theorem idle_new (s : Scanner) : (new s).Idle :=
  ⟨rfl, rfl⟩

/-- **Without a report, only a scan does anything.** -/
theorem Idle.step_eq (h : s.Idle) {action : Step} (haction : action ≠ .scan) :
    s.step action = (.fault .missingEntry, s) := by
  have hheld : s.held? = none := by
    unfold held?
    rw [h.last]
    rfl
  unfold Session.step
  rw [if_neg haction]
  dsimp only
  rw [hheld]

theorem Idle.steps_eq (h : s.Idle) {actions : List Step} (hactions : .scan ∉ actions) :
    (s.steps actions).2 = s := by
  induction actions with
  | nil => rfl
  | cons action actions ih =>
    have haction : action ≠ .scan := by
      rintro rfl
      exact hactions List.mem_cons_self
    rw [steps_cons, h.step_eq haction]
    exact ih fun hmem => hactions (List.mem_cons_of_mem _ hmem)

/-- **The first scan makes a report**, which both have from then on. -/
theorem Idle.holds_scan (h : s.Idle) :
    s.scan.2.Holds s.scan.1 (Report.ofHalt s.scanner.name s.scanner.options s.scanner.text
      (Scan.run s.scanner.state s.scanner.text)) := by
  unfold scan
  rw [h.scanner]
  exact ⟨rfl, rfl, List.getElem?_concat_length⟩

theorem Idle.length_log_scan (h : s.Idle) :
    s.scan.2.scanner.log.length = s.scanner.log.length + 1 := by
  unfold scan
  rw [h.scanner]
  exact List.length_append

/-- The first scan answers that its report is a new one, and that there is one record more. -/
theorem Idle.step_scan_eq (h : s.Idle) :
    s.step .scan
      = ((Report.ofHalt s.scanner.name s.scanner.options s.scanner.text
          (Scan.run s.scanner.state s.scanner.text)).answer s.scanner.text false
          (s.scanner.log.length + 1) .scan, s.scan.2) := by
  have hnext := h.holds_scan
  unfold Session.step
  rw [if_pos rfl]
  simp only [hnext.held?_eq, h.last, h.length_log_scan]
  exact congrArg _ hnext.set_self

/-! ## Faults -/

/-- **How a scanner and its user can be**: without a report, or both with the same one. -/
inductive Consistent (s : Session) : Prop
  | idle : s.Idle → Consistent s
  | holds {address : Nat} {r : Report} : s.Holds address r → Consistent s

/-- **A step that ends by a fault leaves everything as it was.** -/
theorem Consistent.step_of_fault (h : s.Consistent) {action : Step} {fault : Fault}
    (hfault : (s.step action).1 = .fault fault) : (s.step action).2 = s := by
  cases h with
  | idle h =>
    by_cases haction : action = .scan
    · subst haction
      rw [h.step_scan_eq] at hfault
      cases hfault
    · rw [h.step_eq haction]
  | holds h =>
    rw [h.step_eq] at hfault ⊢
    rw [Report.change_of_fault hfault]
    exact h.set_self

/-! ## The scanner with its report inside -/

/-- The scanner with the report that it knows the address of. -/
def view (s : Session) : Scanner where
  name := s.scanner.name
  text := s.scanner.text
  options := s.scanner.options
  state := s.scanner.state
  report := s.scanner.report.bind (s.reports[·]?)
  log := s.scanner.log

theorem view_new {scanner : Scanner} (h : scanner.report = none) :
    (new scanner).view = scanner := by
  obtain ⟨name, text, options, state, report, log⟩ := scanner
  cases h
  rfl

theorem Idle.view_report (h : s.Idle) : s.view.report = none := by
  show s.scanner.report.bind _ = none
  rw [h.scanner]
  rfl

theorem Holds.view_report (h : s.Holds address r) : s.view.report = some r := by
  show s.scanner.report.bind _ = some r
  rw [h.scanner]
  exact h.report

/-- **A step does the same to the scanner with its report inside**, and answers the same. -/
theorem Consistent.step_agrees (h : s.Consistent) (action : Step) :
    (s.step action).1 = (s.view.step action).1 ∧ (s.step action).2.view = (s.view.step action).2 ∧
      (s.step action).2.Consistent := by
  cases h with
  | idle h =>
    by_cases haction : action = .scan
    · subst haction
      rw [h.step_scan_eq, Scanner.step_scan_of_none h.view_report]
      refine ⟨rfl, ?_, .holds h.holds_scan⟩
      unfold scan
      rw [h.scanner]
      simp [view]
    · rw [h.step_eq haction, Scanner.step_of_none h.view_report haction]
      exact ⟨rfl, rfl, .idle h⟩
  | @holds address r h =>
    have hstep := h.step action
    rw [Scanner.step_of_report h.view_report]
    refine ⟨by rw [h.step_eq]; rfl, ?_, .holds hstep⟩
    have hreport := hstep.view_report
    rw [h.step_eq] at hreport ⊢
    exact congrArg (fun report => ({ s.view with report } : Scanner)) hreport

/-- **Steps agree one after the other.** -/
theorem Consistent.steps_agree (h : s.Consistent) (actions : List Step) :
    (s.steps actions).1 = (s.view.steps actions).1 ∧
      (s.steps actions).2.view = (s.view.steps actions).2 ∧ (s.steps actions).2.Consistent := by
  induction actions generalizing s with
  | nil => exact ⟨rfl, rfl, h⟩
  | cons action actions ih =>
    obtain ⟨hanswer, hview, hnext⟩ := h.step_agrees action
    obtain ⟨hanswers, hlast, hconsistent⟩ := ih hnext
    have hsteps : s.view.steps (action :: actions)
        = ((s.view.step action).1 :: ((s.view.step action).2.steps actions).1,
          ((s.view.step action).2.steps actions).2) := rfl
    rw [steps_cons, hsteps, ← hview, ← hanswer, ← hanswers]
    exact ⟨rfl, hlast, hconsistent⟩

end Session

/-! ## New scanners -/

theorem new_of_ofSettings {name : String} {t : Text} {settings : List Setting} {scanner : Scanner}
    (h : Scanner.ofSettings name t settings = .ok scanner) :
    scanner.report = none ∧ scanner.log = [] := by
  unfold Scanner.ofSettings at h
  split at h
  · cases h
    exact ⟨rfl, rfl⟩
  · cases h

/-- **What holds of a session for good after its first scan**, which handed out the report `r` at
the address `first.1` and left the session `first.2`, and after the steps that came `later`. -/
structure StaysScanned (first : Nat × Session) (r : Report) (later : List Step) (s : Session) :
    Prop where
  /-- A scan hands out the report at the same address again, and changes nothing. -/
  same : s.scan = (first.1, s)
  /-- It answers so, with the outcome and the depth of the first scan. -/
  answer : (s.step .scan).1 = .scanned true r.outcome r.depth 1
  /-- There is the first report, with all changes that were made to it, and no other. -/
  report : s.reports[first.1]? = some (later.foldl Report.change r)
  alone : s.reports.length = 1
  /-- There is one record in the log. -/
  logged : s.scanner.log.length = 1
  /-- The scanner itself is as the first scan left it. -/
  scanner : s.scanner = first.2.scanner

/-- **A scanner scans once.** Whatever is done before the first scan comes to nothing, and whatever
is done after it, later scans hand out the report of the first one, with the changes made to it
meanwhile. A step that ends by a fault changes nothing, and the answers to all steps are those of
the scanner with the report inside. -/
theorem scanner_scans_once {name : String} {t : Text} {settings : List Setting} {scanner : Scanner}
    (h : Scanner.ofSettings name t settings = .ok scanner) (idle later : List Step)
    (hidle : .scan ∉ idle) :
    let s := Session.new scanner
    ((s.steps idle).2 = s ∧ s.scanner.log.length = 0) ∧
      (s.step .scan).1 = .scanned false scanner.scan.1.outcome scanner.scan.1.depth 1 ∧
      StaysScanned s.scan scanner.scan.1 later (s.steps (idle ++ .scan :: later)).2 ∧
      ∀ actions,
        ((s.steps actions).1 = (scanner.steps actions).1 ∧
          (s.steps actions).2.view = (scanner.steps actions).2) ∧
        ∀ action fault, ((s.steps actions).2.step action).1 = .fault fault →
          ((s.steps actions).2.step action).2 = (s.steps actions).2 := by
  intro s
  obtain ⟨hnone, hlog⟩ := new_of_ofSettings h
  have hreport : Report.ofHalt s.scanner.name s.scanner.options s.scanner.text
      (Scan.run s.scanner.state s.scanner.text) = scanner.scan.1 := by
    unfold Scanner.scan
    rw [hnone]
    rfl
  have hs : s.Idle := Session.idle_new scanner
  have hfirst := hs.holds_scan
  have hstep := hs.step_scan_eq
  have hrecords : s.scanner.log.length = 0 := congrArg List.length hlog
  rw [hreport] at hfirst hstep
  have hbefore := hs.steps_eq hidle
  refine ⟨⟨hbefore, hrecords⟩, ?_, ?_, fun actions => ?_⟩
  · rw [hstep, hrecords]
    rfl
  · have hafter : (s.steps (idle ++ .scan :: later)).2 = (s.scan.2.steps later).2 := by
      rw [Session.steps_append, hbefore, Session.steps_cons, hstep]
    obtain ⟨hholds, hscanner, hlength⟩ := hfirst.steps later
    have hlogged : s.scan.2.scanner.log.length = 1 := by
      rw [hs.length_log_scan, hrecords]
    rw [hafter]
    refine ⟨hholds.scan_eq, ?_, hholds.report, hlength, ?_, hscanner⟩
    · obtain ⟨houtcome, hdepth⟩ := scanner.scan.1.finding_foldl_change later
      rw [hholds.step_eq, hscanner, hlogged]
      show StepAnswer.scanned true _ _ 1 = _
      rw [houtcome, hdepth]
    · rw [hscanner, hlogged]
  · obtain ⟨hanswers, hview, hconsistent⟩ := (Session.Consistent.idle hs).steps_agree actions
    rw [Session.view_new hnone] at hanswers hview
    exact ⟨⟨hanswers, hview⟩, fun action fault hfault => hconsistent.step_of_fault hfault⟩

/-- A report from which the closer has been taken can no longer be written. The next scan hands it
out all the same, and says what the first one said. -/
theorem scanner_scans_once_unclosed :
    let t := ['(', ']']
    let scanner : Scanner := { name := "a", text := t, options := {} }
    let later := [Step.unclose, .write, .scan, .dropTop]
    Scanner.ofSettings "a" t [] = .ok scanner ∧ Step.scan ∉ [Step.write] ∧
      (scanner.steps ([.write] ++ .scan :: later)).1
        = [.fault .missingEntry, .scanned false .mismatched 0 1, .unclosed .mismatched,
          .fault .missingEntry, .scanned true .mismatched 0 1, .dropped 0] ∧
      StaysScanned (Session.new scanner).scan scanner.scan.1 later
        ((Session.new scanner).steps ([.write] ++ .scan :: later)).2 := by
  intro t scanner later
  have h : Scanner.ofSettings "a" t [] = .ok scanner := rfl
  have hidle : Step.scan ∉ [Step.write] := by decide
  obtain ⟨-, -, hstays, -⟩ := scanner_scans_once h [.write] later hidle
  exact ⟨h, hidle, by decide, hstays⟩

end Nesting
