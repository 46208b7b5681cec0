/-
How the command ends.

Whatever the chains and the signature services reply, a run of the command takes one of five
courses: the address is no address, a network is asked for by an unknown name, no network has
the code, the survey is interrupted, or it gives a report.  The outside may change its mind
between two questions.  As long as it replies with bytes, pages and ordinary faults, no fault
escapes, the exit code tells the course, and a report is printed and saved exactly where a
survey has given one.
-/

import ContractSurvey.Proofs.CommandLine.Selection
import ContractSurvey.Proofs.Report.Render

namespace ContractSurvey
namespace CommandLine

open Dialogue

/-! ### The outside -/

/-- Replies of chains that give bytes and of services that give anything, where no fault is
fatal and no chain reports one about malformed input. -/
def Permitted : Query → Reply → Prop
  | .connect _, reply => reply.IsOrdinary
  | .chain _ _, reply => reply.IsPlain
  | .signature _, reply => reply.IsOrdinary

theorem Permitted.ofProbe {query : Network.Query} {reply : Reply}
    (permitted : Permitted (.ofProbe query) reply) : Network.Permitted query reply := by
  cases query with
  | connect network => exact permitted
  | chain network asked => exact ⟨permitted.bytes, permitted.isOrdinary⟩

theorem Permitted.ofSurvey {network : Network} {query : Analysis.Query} {reply : Reply}
    (permitted : Permitted (.ofSurvey network query) reply) :
    Analysis.Permits (fun _ reply => reply.IsOrdinary) query reply := by
  cases query with
  | chain asked =>
      exact ⟨permitted.isOrdinary, fun _ _ => ⟨permitted.bytes, permitted.interrupts⟩⟩
  | signature asked => exact permitted

/-- Some chain gave code for an address. -/
def GaveCode (exchanges : List (Query × Reply)) (address : Text) : Prop :=
  ∃ network code, code ≠ [] ∧ (.chain network (.code address), .ok (.bytes code)) ∈ exchanges

theorem gaveCode_ofProbe_iff (exchanges : List (Network.Query × Reply)) (address : Text) :
    GaveCode (exchanges.map (Prod.map Query.ofProbe id)) address ↔
      Network.GaveCode exchanges address := by
  constructor
  · rintro ⟨network, code, present, member⟩
    obtain ⟨⟨query, reply⟩, exchanged, same⟩ := List.mem_map.mp member
    cases query with
    | connect other => cases same
    | chain other asked =>
        cases same
        exact ⟨network, code, present, exchanged⟩
  · rintro ⟨network, code, present, member⟩
    exact ⟨network, code, present, List.mem_map.mpr ⟨_, member, rfl⟩⟩

/-! ### The choice of a network -/

section Choice

variable {surroundings : Surroundings} {options : Options} {address : Text}

/-- Without a server, a network is asked for by a name that none of the networks has. -/
def NamesUnknownNetwork (surroundings : Surroundings) (options : Options) : Prop :=
  given? options.server = none ∧
    ∃ name, given? (options.network <|> surroundings.networkName) = some name ∧
      Network.named? surroundings.networks name = none

theorem NamesUnknownNetwork.not_leavesChoice
    (unknown : NamesUnknownNetwork surroundings options) :
    ¬LeavesChoice surroundings options := by
  intro leaves
  obtain ⟨_, name, given, _⟩ := unknown
  rw [leaves.name] at given
  cases given

/-- A network is chosen among checks exactly when one of them has found a contract. -/
theorem selectFound_absent_or_chosen {networks : List Network} {checks : List Network.Check}
    (long : checks.length = networks.length) (followsProxy : Bool) :
    (¬(∃ check ∈ checks, check.isContract = true) ∧
        selectFound followsProxy (networks.zip checks) = .absent) ∨
      (∃ check ∈ checks, check.isContract = true) ∧
        ∃ network follows lines, selectFound followsProxy (networks.zip checks) =
          .chosen network follows lines := by
  induction checks generalizing networks with
  | nil =>
      rw [List.zip_nil_right]
      exact Or.inl ⟨fun found => List.not_mem_nil found.choose_spec.1, rfl⟩
  | cons check rest ih =>
      cases networks with
      | nil => cases long
      | cons network others =>
          rw [List.zip_cons_cons, List.exists_mem_cons_iff]
          cases found : check.isContract with
          | true =>
              obtain ⟨behind, chosen⟩ :=
                selectFound_of_found network found followsProxy (others.zip rest)
              exact Or.inr ⟨Or.inl rfl, _, _, _, chosen⟩
          | false =>
              rw [selectFound_of_absent found]
              simpa using ih (Nat.succ.inj long)

private theorem probing_finds {exchanges : List (Query × Reply)}
    {outcome : Except Fault (List Network.Check)}
    (permitted : ∀ exchange ∈ exchanges, Permitted exchange.1 exchange.2)
    (path : Path ((probing surroundings address).run.via fun query =>
      Dialogue.question (Query.ofProbe query)) exchanges outcome) :
    ∃ checks, outcome = .ok checks ∧ checks.length = surroundings.networks.length ∧
      ((∃ check ∈ checks, check.isContract = true) ↔ GaveCode exchanges address) := by
  obtain ⟨inner, rfl, own⟩ := (path_via_question_iff ..).mp path
  rw [gaveCode_ofProbe_iff]
  apply Network.probe_finds _ own
  intro exchange member
  exact (permitted _ (List.mem_map.mpr ⟨exchange, member, rfl⟩)).ofProbe

private theorem select_probed {exchanges : List (Query × Reply)}
    {outcome : Except Fault Selection} (leaves : LeavesChoice surroundings options)
    (permitted : ∀ exchange ∈ exchanges, Permitted exchange.1 exchange.2)
    (path : Path (select surroundings options address).run exchanges outcome) :
    ∃ checks, outcome =
        .ok (selectFound options.followsProxy (surroundings.networks.zip checks)) ∧
      checks.length = surroundings.networks.length ∧
      ((∃ check ∈ checks, check.isContract = true) ↔ GaveCode exchanges address) := by
  rw [select_of_leavesChoice leaves] at path
  rcases (path_bind_iff ..).mp path with
    ⟨fault, _, stopped⟩ | ⟨checks, front, behind, rfl, found, onward⟩
  · obtain ⟨checks, impossible, _⟩ := probing_finds permitted stopped
    cases impossible
  · obtain ⟨rfl, rfl⟩ := (path_done_iff ..).mp onward
    rw [List.append_nil] at permitted ⊢
    obtain ⟨made, same, long, finds⟩ := probing_finds permitted found
    cases same
    exact ⟨checks, rfl, long, finds⟩

/-- How a network is chosen: by a name that is unknown, by a probe that finds no code, or in
one of the ways in which there is a network to survey. -/
theorem select_cases {exchanges : List (Query × Reply)} {outcome : Except Fault Selection}
    (permitted : ∀ exchange ∈ exchanges, Permitted exchange.1 exchange.2)
    (path : Path (select surroundings options address).run exchanges outcome) :
    (∃ name, outcome = .ok (.unknown name) ∧ exchanges = [] ∧
        NamesUnknownNetwork surroundings options) ∨
      (outcome = .ok .absent ∧ LeavesChoice surroundings options ∧
        ¬GaveCode exchanges address) ∨
      ∃ network followsProxy lines, outcome = .ok (.chosen network followsProxy lines) ∧
        ¬NamesUnknownNetwork surroundings options ∧
        (LeavesChoice surroundings options → GaveCode exchanges address) := by
  cases server : given? options.server with
  | some url =>
      unfold select at path
      rw [server] at path
      obtain ⟨_, rfl⟩ := (path_done_iff ..).mp path
      refine Or.inr (Or.inr ⟨_, _, _, rfl, ?_, ?_⟩)
      · intro unknown
        rw [unknown.1] at server
        cases server
      · intro leaves
        rw [leaves.server] at server
        cases server
  | none =>
      cases asked : given? (options.network <|> surroundings.networkName) with
      | some name =>
          unfold select at path
          rw [server, asked] at path
          cases known : Network.named? surroundings.networks name with
          | none =>
              simp only [known] at path
              obtain ⟨rfl, rfl⟩ := (path_done_iff ..).mp path
              exact Or.inl ⟨name, rfl, rfl, server, name, asked, known⟩
          | some network =>
              simp only [known] at path
              obtain ⟨_, rfl⟩ := (path_done_iff ..).mp path
              refine Or.inr (Or.inr ⟨_, _, _, rfl, ?_, ?_⟩)
              · rintro ⟨_, other, given, unknown⟩
                rw [asked] at given
                cases given
                rw [known] at unknown
                cases unknown
              · intro leaves
                rw [leaves.name] at asked
                cases asked
      | none =>
          have leaves : LeavesChoice surroundings options := ⟨server, asked⟩
          obtain ⟨checks, rfl, long, finds⟩ := select_probed leaves permitted path
          rcases selectFound_absent_or_chosen long options.followsProxy with
            ⟨nowhere, absent⟩ | ⟨found, network, follows, lines, chosen⟩
          · rw [absent]
            exact Or.inr (Or.inl ⟨rfl, leaves, fun gave => nowhere (finds.mpr gave)⟩)
          · rw [chosen]
            exact Or.inr (Or.inr ⟨network, follows, lines, rfl,
              fun unknown => unknown.not_leavesChoice leaves, fun _ => finds.mp found⟩)

end Choice

/-! ### The courses of a run -/

/-- A survey is made in a run: behind the choice of a network, about which lines are said, a
client is made, and the rest of the way is a way through the survey. -/
def Surveys (surroundings : Surroundings) (options : Options) (text : Text)
    (exchanges : List (Query × Reply)) (lines : List Text)
    (result : Except Analysis.Failure Report) : Prop :=
  ∃ address front network followsProxy connected inner,
    Address.validate? text = some address ∧
    Path (select surroundings options address).run front
      (.ok (.chosen network followsProxy lines)) ∧
    exchanges = front ++ (.connect network, .ok connected) ::
      inner.map (Prod.map (Query.ofSurvey network) id) ∧
    Path (Analysis.survey (plan surroundings options network followsProxy) (.text address))
      inner result

/-- A client of the network that is chosen can be made. -/
def MakesClient (surroundings : Surroundings) (options : Options) (text : Text)
    (exchanges : List (Query × Reply)) : Prop :=
  ∀ address front network followsProxy lines reply behind,
    Address.validate? text = some address →
    Path (select surroundings options address).run front
      (.ok (.chosen network followsProxy lines)) →
    exchanges = front ++ (.connect network, reply) :: behind →
    ∃ connected, reply = .ok connected

/-- The networks are probed for a valid address, and no chain gives code for it. -/
def FindsNowhere (surroundings : Surroundings) (options : Options) (text : Text)
    (exchanges : List (Query × Reply)) : Prop :=
  LeavesChoice surroundings options ∧
    ∃ address, Address.validate? text = some address ∧ ¬GaveCode exchanges address

/-- The course of a run, and its outcome. -/
inductive Course (surroundings : Surroundings) (options : Options) (text : Text)
    (exchanges : List (Query × Reply)) : Outcome → Prop
  | invalid (refused : Address.validate? text = none) (silent : exchanges = []) :
      Course surroundings options text exchanges
        (.said ["Invalid EVM address: ".toList ++ text] Outcome.notFoundCode)
  | unknown (name : Text) (unknown : NamesUnknownNetwork surroundings options)
      (silent : exchanges = []) :
      Course surroundings options text exchanges
        (.said [unknownNetwork surroundings.networks name] Outcome.notFoundCode)
  | absent (address : Text) (nowhere : FindsNowhere surroundings options text exchanges) :
      Course surroundings options text exchanges
        (.said ["Address not found: ".toList ++ address ++
          " is not a smart contract in any supported network.".toList] Outcome.notFoundCode)
  | interrupted {lines : List Text} {fault : Fault} {soFar : Report}
      (surveyed : Surveys surroundings options text exchanges lines
        (.error (.interrupted fault soFar))) :
      Course surroundings options text exchanges
        ((Outcome.ofFailure (.interrupted fault soFar)).after lines)
  | reported {lines : List Text} {report : Report}
      (surveyed : Surveys surroundings options text exchanges lines (.ok report)) :
      Course surroundings options text exchanges
        ((Outcome.ofReport options.document report).after lines)

section Courses

variable {surroundings : Surroundings} {options : Options} {text : Text}
  {exchanges : List (Query × Reply)}

theorem Surveys.unique {lines others : List Text}
    {result other : Except Analysis.Failure Report}
    (surveyed : Surveys surroundings options text exchanges lines result)
    (again : Surveys surroundings options text exchanges others other) :
    lines = others ∧ result = other := by
  obtain ⟨address, front, network, follows, connected, inner, valid, chosen, rfl, path⟩ :=
    surveyed
  obtain ⟨_, _, _, _, _, rest, validAgain, chosenAgain, same, pathAgain⟩ := again
  rw [valid] at validAgain
  cases validAgain
  obtain ⟨rfl, equal⟩ := chosen.unique chosenAgain same
  cases equal
  obtain ⟨_, behind⟩ := List.cons.inj (List.append_cancel_left same)
  -- The survey asks under the names of the network, and so the ways are compared there.
  have named := (path_via_question_iff _ (Query.ofSurvey network) _ _).mpr ⟨inner, rfl, path⟩
  have namedAgain :=
    (path_via_question_iff _ (Query.ofSurvey network) _ _).mpr ⟨rest, rfl, pathAgain⟩
  exact ⟨rfl, (named.unique namedAgain (congrArg (· ++ []) behind)).2⟩

theorem Surveys.iff_eq {lines : List Text} {result : Except Analysis.Failure Report}
    (surveyed : Surveys surroundings options text exchanges lines result) (others : List Text)
    (other : Except Analysis.Failure Report) :
    Surveys surroundings options text exchanges others other ↔
      lines = others ∧ result = other := by
  constructor
  · exact surveyed.unique
  · rintro ⟨rfl, rfl⟩
    exact surveyed

/-- Where a survey is made there is a contract to look for and a network to look in. -/
theorem Surveys.has_network {lines : List Text} {result : Except Analysis.Failure Report}
    (permitted : ∀ exchange ∈ exchanges, Permitted exchange.1 exchange.2)
    (surveyed : Surveys surroundings options text exchanges lines result) :
    Address.validate? text ≠ none ∧ ¬NamesUnknownNetwork surroundings options ∧
      ¬FindsNowhere surroundings options text exchanges := by
  obtain ⟨address, front, network, follows, connected, inner, valid, chosen, rfl, _⟩ :=
    surveyed
  have ofFront := (List.forall_mem_append.mp permitted).1
  rcases select_cases ofFront chosen with
    ⟨_, impossible, _⟩ | ⟨impossible, _⟩ | ⟨_, _, _, _, known, gave⟩
  · cases impossible
  · cases impossible
  · refine ⟨by simp [valid], known, ?_⟩
    rintro ⟨leaves, other, validAgain, nowhere⟩
    rw [valid] at validAgain
    cases validAgain
    obtain ⟨network, code, present, member⟩ := gave leaves
    exact nowhere ⟨network, code, present, List.mem_append_left _ member⟩

private theorem course_of_surveyIn {address : Text} {front behind : List (Query × Reply)}
    {network : Network} {followsProxy : Bool} {lines : List Text} {outcome : Outcome}
    (valid : Address.validate? text = some address)
    (chosen : Path (select surroundings options address).run front
      (.ok (.chosen network followsProxy lines)))
    (permitted : ∀ exchange ∈ behind, Permitted exchange.1 exchange.2)
    (made : MakesClient surroundings options text (front ++ behind))
    (path : Path (surveyIn surroundings options address network followsProxy) behind
      outcome) :
    Course surroundings options text (front ++ behind) (outcome.after lines) := by
  obtain ⟨reply, rest, rfl, onward⟩ := (path_ask_iff ..).mp path
  obtain ⟨connected, rfl⟩ := made address front network followsProxy lines reply rest valid
    chosen rfl
  obtain ⟨asked, ended, result, rfl, surveyed, finished⟩ := (path_andThen_iff ..).mp onward
  obtain ⟨inner, rfl, own⟩ := (path_via_question_iff ..).mp surveyed
  have surveys : Surveys surroundings options text (front ++ (.connect network,
      .ok connected) :: inner.map (Prod.map (Query.ofSurvey network) id)) lines result :=
    ⟨address, front, network, followsProxy, connected, inner, valid, chosen, rfl, own⟩
  cases result with
  | ok report =>
      obtain ⟨rfl, rfl⟩ := (path_done_iff ..).mp finished
      rw [List.append_nil]
      exact .reported surveys
  | error failure =>
      obtain ⟨rfl, rfl⟩ := (path_done_iff ..).mp finished
      rw [List.append_nil] at permitted ⊢
      -- The survey is given the canonical form of the address, which is valid again.
      obtain ⟨fault, soFar, rfl⟩ := Analysis.survey_failure_isInterrupted
        (Address.validate?_isCanonical valid).validate?_eq
        Signature.defaultLookups_areTolerable
        (fun exchange member => (permitted _ (List.mem_cons_of_mem _
          (List.mem_map.mpr ⟨exchange, member, rfl⟩))).ofSurvey) own
      exact .interrupted surveys

/-- Every run takes one of the courses. -/
theorem course_of_run {arguments : List Text} {ended : Outcome}
    (asks : read arguments = .survey text options)
    (permitted : ∀ exchange ∈ exchanges, Permitted exchange.1 exchange.2)
    (made : MakesClient surroundings options text exchanges)
    (path : Path (run surroundings arguments) exchanges ended) :
    ∃ outcome log, Course surroundings options text exchanges outcome ∧
      ended = { outcome with log := log } := by
  cases valid : Address.validate? text with
  | none =>
      unfold run conduct at path
      rw [asks] at path
      simp only [valid] at path
      obtain ⟨rfl, rfl⟩ := (path_done_iff ..).mp path
      exact ⟨_, _, .invalid valid rfl, rfl⟩
  | some address =>
      rw [run_of_survey asks valid] at path
      obtain ⟨outcome, own, rfl⟩ := (path_andThen_done_iff ..).mp path
      refine ⟨outcome, _, ?_, rfl⟩
      obtain ⟨front, behind, selected, rfl, choice, onward⟩ := (path_andThen_iff ..).mp own
      obtain ⟨ofFront, ofBehind⟩ := List.forall_mem_append.mp permitted
      rcases select_cases ofFront choice with
        ⟨name, rfl, rfl, unknown⟩ | ⟨rfl, leaves, nowhere⟩ | ⟨network, follows, lines, rfl, _⟩
      · obtain ⟨rfl, rfl⟩ := (path_done_iff ..).mp onward
        exact .unknown name unknown rfl
      · obtain ⟨rfl, rfl⟩ := (path_done_iff ..).mp onward
        rw [List.append_nil]
        exact .absent address ⟨leaves, address, valid, nowhere⟩
      · obtain ⟨found, surveyed, rfl⟩ := (path_andThen_done_iff ..).mp onward
        exact course_of_surveyIn valid choice ofBehind made surveyed

end Courses

/-! ### What is printed -/

/-- A line with another beginning is not mistaken for a report. -/
theorem linesText_ne_report {first : Char} (line : Text) (others : List Text)
    (report : Report) (notTitle : first ≠ 'C' ∧ first ≠ 'P') :
    Outcome.linesText ((first :: line) :: others) ≠ Outcome.linesText [report.render] := by
  obtain ⟨letter, rest, rendered, title⟩ := report.exists_render
  rw [rendered]
  intro same
  obtain ⟨equal, _⟩ := List.cons.inj same
  rcases title with rfl | rfl
  · exact notTitle.1 equal
  · exact notTitle.2 equal

theorem linesText_append (lines others : List Text) :
    Outcome.linesText (lines ++ others) = Outcome.linesText lines ++ Outcome.linesText others :=
  List.flatMap_append ..

/-! ### What an outcome tells -/

/-- There is no contract to survey. -/
def FindsNoContract (surroundings : Surroundings) (options : Options) (text : Text)
    (exchanges : List (Query × Reply)) : Prop :=
  Address.validate? text = none ∨ NamesUnknownNetwork surroundings options ∨
    FindsNowhere surroundings options text exchanges ∨
    ∃ lines report, Surveys surroundings options text exchanges lines (.ok report) ∧
      report.isContract = false

section Surveyed

variable {surroundings : Surroundings} {options : Options} {text : Text}
  {exchanges : List (Query × Reply)} {lines : List Text}
  {result : Except Analysis.Failure Report}

theorem Surveys.findsNoContract_iff
    (permitted : ∀ exchange ∈ exchanges, Permitted exchange.1 exchange.2)
    (surveyed : Surveys surroundings options text exchanges lines result) :
    FindsNoContract surroundings options text exchanges ↔
      ∃ report, result = .ok report ∧ report.isContract = false := by
  obtain ⟨valid, known, somewhere⟩ := surveyed.has_network permitted
  constructor
  · rintro (invalid | unknown | nowhere | ⟨others, report, reported, absent⟩)
    · exact absurd invalid valid
    · exact absurd unknown known
    · exact absurd nowhere somewhere
    · exact ⟨report, (surveyed.unique reported).2, absent⟩
  · rintro ⟨report, rfl, absent⟩
    exact Or.inr (Or.inr (Or.inr ⟨lines, report, surveyed, absent⟩))

/-- A run with a survey is not refused before it asks anything. -/
theorem Surveys.silent (permitted : ∀ exchange ∈ exchanges, Permitted exchange.1 exchange.2)
    (surveyed : Surveys surroundings options text exchanges lines result)
    (refused : Address.validate? text = none ∨ NamesUnknownNetwork surroundings options) :
    exchanges = [] := by
  obtain ⟨valid, known, _⟩ := surveyed.has_network permitted
  rcases refused with invalid | unknown
  · exact absurd invalid valid
  · exact absurd unknown known

end Surveyed

/-- The lines that are said in front of a survey, none where no survey is made. -/
def Announced (surroundings : Surroundings) (options : Options) (text : Text)
    (exchanges : List (Query × Reply)) (lines : List Text) : Prop :=
  (∃ result, Surveys surroundings options text exchanges lines result) ∨
    lines = [] ∧ ∀ others result, ¬Surveys surroundings options text exchanges others result

/-- An outcome whose exit code, text and document tell the course of the run.  A report is
printed behind the lines about the choice of its network and saved under the path that was
given; without a report nothing is saved, and nothing is printed there that could be one. -/
structure Outcome.Tells (surroundings : Surroundings) (options : Options) (text : Text)
    (exchanges : List (Query × Reply)) (outcome : Outcome) (code : Nat) : Prop where
  ending : outcome.ending = .exited code
  notFound : code = 1 ↔ FindsNoContract surroundings options text exchanges
  failed : code = 2 ↔ ∃ lines fault soFar, Surveys surroundings options text exchanges lines
    (.error (.interrupted fault soFar))
  succeeded : code = 0 ↔ ∃ lines report,
    Surveys surroundings options text exchanges lines (.ok report) ∧ report.isContract = true
  otherwise : code ≠ 1 → code ≠ 2 → code = 0
  silent : Address.validate? text = none ∨ NamesUnknownNetwork surroundings options →
    exchanges = []
  reported : ∀ lines report,
    Surveys surroundings options text exchanges lines (.ok report) →
    outcome.printed = Outcome.linesText (lines ++ [report.render]) ∧
      outcome.document = options.document.map fun path => ⟨path, report.document⟩
  unreported : (∀ lines report,
      ¬Surveys surroundings options text exchanges lines (.ok report)) →
    outcome.document = none ∧ ∀ (lines : List Text) (report : Report),
      Announced surroundings options text exchanges lines →
      outcome.printed ≠ Outcome.linesText (lines ++ [report.render])

section Tells

variable {surroundings : Surroundings} {options : Options} {text : Text}
  {exchanges : List (Query × Reply)}

/-- A run without a survey ends with a line about why there is none. -/
private theorem tells_of_said {first : Char} {line : Text} (log : Option Text)
    (never : ∀ lines result, ¬Surveys surroundings options text exchanges lines result)
    (notFound : FindsNoContract surroundings options text exchanges)
    (silent : Address.validate? text = none ∨
      NamesUnknownNetwork surroundings options → exchanges = [])
    (notTitle : first ≠ 'C' ∧ first ≠ 'P') :
    Outcome.Tells surroundings options text exchanges
      { Outcome.said [first :: line] Outcome.notFoundCode with log := log } 1 where
  ending := rfl
  notFound := iff_of_true rfl notFound
  failed := iff_of_false (by decide) fun ⟨lines, _, _, surveyed⟩ => never lines _ surveyed
  succeeded := iff_of_false (by decide) fun ⟨lines, _, surveyed, _⟩ => never lines _ surveyed
  otherwise := fun impossible => absurd rfl impossible
  silent := silent
  reported := fun lines report surveyed => absurd surveyed (never lines _)
  unreported := by
    intro _
    refine ⟨rfl, ?_⟩
    rintro lines report (⟨result, surveyed⟩ | ⟨rfl, _⟩)
    · exact absurd surveyed (never lines result)
    · exact linesText_ne_report line [] report notTitle

private theorem tells_of_interrupted {lines : List Text} {fault : Fault} {soFar : Report}
    (log : Option Text)
    (permitted : ∀ exchange ∈ exchanges, Permitted exchange.1 exchange.2)
    (surveyed : Surveys surroundings options text exchanges lines
      (.error (.interrupted fault soFar))) :
    Outcome.Tells surroundings options text exchanges
      { (Outcome.ofFailure (.interrupted fault soFar)).after lines with log := log } 2 where
  ending := rfl
  notFound := by
    rw [surveyed.findsNoContract_iff permitted]
    simp
  failed := iff_of_true rfl ⟨lines, fault, soFar, surveyed⟩
  succeeded := by
    simp only [surveyed.iff_eq]
    simp
  otherwise := fun _ impossible => absurd rfl impossible
  silent := surveyed.silent permitted
  reported := by
    intro others report reported
    cases (surveyed.unique reported).2
  unreported := by
    intro _
    refine ⟨rfl, ?_⟩
    rintro others report (⟨result, again⟩ | ⟨_, never⟩) same
    · obtain ⟨rfl, _⟩ := surveyed.unique again
      rw [linesText_append] at same
      exact linesText_ne_report _ _ report (by decide) (List.append_cancel_left same)
    · exact never lines _ surveyed

private theorem tells_of_reported {lines : List Text} {report : Report} (log : Option Text)
    (permitted : ∀ exchange ∈ exchanges, Permitted exchange.1 exchange.2)
    (surveyed : Surveys surroundings options text exchanges lines (.ok report)) :
    Outcome.Tells surroundings options text exchanges
      { (Outcome.ofReport options.document report).after lines with log := log }
      (if report.isContract then 0 else 1) where
  ending := rfl
  notFound := by
    rw [surveyed.findsNoContract_iff permitted]
    cases contract : report.isContract <;> simp [contract]
  failed := by
    simp only [surveyed.iff_eq]
    cases report.isContract <;> simp
  succeeded := by
    simp only [surveyed.iff_eq]
    cases contract : report.isContract <;> simp [contract]
  otherwise := by
    cases report.isContract <;> simp
  silent := surveyed.silent permitted
  reported := by
    intro others other reported
    obtain ⟨rfl, same⟩ := surveyed.unique reported
    cases same
    exact ⟨(linesText_append ..).symm, rfl⟩
  unreported := fun never => absurd surveyed (never lines report)

/-- As long as the outside gives bytes, pages and ordinary faults, no fault escapes from a
run, and its outcome tells which course it has taken. -/
theorem run_exit_code_tells {arguments : List Text} {ended : Outcome}
    (asks : read arguments = .survey text options)
    (permitted : ∀ exchange ∈ exchanges, Permitted exchange.1 exchange.2)
    (made : MakesClient surroundings options text exchanges)
    (path : Path (run surroundings arguments) exchanges ended) :
    ∃ code, ended.Tells surroundings options text exchanges code := by
  obtain ⟨outcome, log, course, rfl⟩ := course_of_run asks permitted made path
  cases course with
  | invalid refused silent =>
      have never : ∀ lines result, ¬Surveys surroundings options text exchanges lines result :=
        fun _ _ surveyed => (surveyed.has_network permitted).1 refused
      exact ⟨1, tells_of_said log never (Or.inl refused) (fun _ => silent) (by decide)⟩
  | unknown name unknown silent =>
      have never : ∀ lines result, ¬Surveys surroundings options text exchanges lines result :=
        fun _ _ surveyed => (surveyed.has_network permitted).2.1 unknown
      exact ⟨1, tells_of_said log never (Or.inr (Or.inl unknown)) (fun _ => silent) (by decide)⟩
  | absent address nowhere =>
      have never : ∀ lines result, ¬Surveys surroundings options text exchanges lines result :=
        fun _ _ surveyed => (surveyed.has_network permitted).2.2 nowhere
      have notFound : FindsNoContract surroundings options text exchanges :=
        Or.inr (Or.inr (Or.inl nowhere))
      refine ⟨1, tells_of_said log never notFound ?_ (by decide)⟩
      obtain ⟨leaves, other, valid, _⟩ := nowhere
      rintro (invalid | unknown)
      · rw [valid] at invalid
        cases invalid
      · exact absurd leaves unknown.not_leavesChoice
  | interrupted surveyed => exact ⟨2, tells_of_interrupted log permitted surveyed⟩
  | reported surveyed => exact ⟨_, tells_of_reported log permitted surveyed⟩

end Tells

/-! ### A server that has nothing to survey -/

/-- Chains that reply alike to every question about code, and services that fail. -/
def sameCode (code : Reply) : Query → Reply
  | .connect _ => .ok .null
  | .chain _ (.code _) => code
  | .chain _ _ => .error (.status 404)
  | .signature _ => .error (.status 404)

private theorem sameCode_permitted {code : Reply} (plain : code.IsPlain) (query : Query) :
    Permitted query (sameCode code query) := by
  have failing : Reply.IsPlain (.error (.status 404)) := Reply.isPlain_error ⟨rfl, rfl⟩
  cases query with
  | connect network => exact Reply.isOrdinary_ok _
  | chain network asked =>
      cases asked with
      | code address => exact plain
      | storage address slot => exact failing
      | call target data sender => exact failing
  | signature asked => exact failing.isOrdinary

private theorem sameCode_makesClient (code : Reply) (surroundings : Surroundings)
    (options : Options) (text : Text) (dialogue : Dialogue Query Outcome) :
    MakesClient surroundings options text
      ((dialogue.asked (sameCode code)).map fun query => (query, sameCode code query)) := by
  intro address front network follows lines reply behind _ _ split
  have member : (Query.connect network, reply) ∈ (dialogue.asked (sameCode code)).map
      fun query => (query, sameCode code query) := by
    rw [split]
    exact List.mem_append_right front (List.mem_cons_self ..)
  have given : reply = sameCode code (.connect network) := eq_reply_of_mem member
  exact ⟨.null, given⟩

/-- What a run exits with, unless a fault escapes from it. -/
def Ending.code? : Ending → Option Nat
  | .exited code => some code
  | .escaped _ => none

theorem run_sameCode_exit_code_tells :
    let account := "0x".toList ++ List.replicate 40 'a'
    let arguments := [account, "--rpc".toList, "http://localhost:8545".toList,
      "--json".toList, "report.json".toList]
    let options : Options := {
      server := some "http://localhost:8545".toList
      document := some "report.json".toList }
    let exchanges := fun code => ((run twoNetworks arguments).asked (sameCode code)).map
      fun query => (query, sameCode code query)
    let ended := fun code => (run twoNetworks arguments).answeredBy (sameCode code)
    let empty : Reply := .ok (.bytes [])
    let failing : Reply := .error (.status 500)
    (∃ lines report,
      Surveys twoNetworks options account (exchanges empty) lines (.ok report) ∧
      report.isContract = false ∧ (ended empty).ending = .exited 1 ∧
      (ended empty).printed = Outcome.linesText (lines ++ [report.render]) ∧
      (ended empty).document = some ⟨"report.json".toList, report.document⟩) ∧
    ∃ lines fault soFar,
      Surveys twoNetworks options account (exchanges failing) lines
        (.error (.interrupted fault soFar)) ∧
      (ended failing).ending = .exited 2 ∧ (ended failing).document = none := by
  intro account arguments options exchanges ended empty failing
  have asks : read arguments = .survey account options := by
    decide +kernel
  have tells : ∀ code : Reply, code.IsPlain →
      ∃ exit, (ended code).Tells twoNetworks options account (exchanges code) exit :=
    fun code plain => run_exit_code_tells asks
      (forall_exchange_of_fixed (sameCode_permitted plain) _)
      (sameCode_makesClient code twoNetworks options account _) (path_answeredBy _ _)
  have shown : (Address.validate? account).isSome = true ∧
      (ended empty).ending.code? = some 1 ∧ (ended failing).ending.code? = some 2 ∧
      (ended failing).document = none := by
    decide +kernel
  obtain ⟨valid, first, second, unsaved⟩ := shown
  constructor
  · obtain ⟨exit, told⟩ := tells empty (Reply.isPlain_bytes [])
    rw [told.ending] at first
    obtain rfl : exit = 1 := Option.some.inj first
    rcases told.notFound.mp rfl with invalid | unknown | nowhere | ⟨lines, report, given, absent⟩
    · rw [invalid] at valid
      cases valid
    · cases unknown.1
    · cases nowhere.1.server
    · obtain ⟨printed, saved⟩ := told.reported lines report given
      exact ⟨lines, report, given, absent, told.ending, printed, saved⟩
  · obtain ⟨exit, told⟩ := tells failing (Reply.isPlain_error ⟨rfl, rfl⟩)
    rw [told.ending] at second
    obtain rfl : exit = 2 := Option.some.inj second
    obtain ⟨lines, fault, soFar, failed⟩ := told.failed.mp rfl
    exact ⟨lines, fault, soFar, failed, told.ending, unsaved⟩

end CommandLine
end ContractSurvey
