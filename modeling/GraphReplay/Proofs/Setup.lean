import GraphReplay.Log.Setup
import GraphReplay.Session.Step
import Mathlib.Data.List.Basic

/-!
# The first attempt to set up printing

Printing is set up once in a process. The first attempt closes the matter, whether
it installs a printer, finds somebody else's receiver in the place, or has a filter
that cannot be read: all later attempts succeed and change nothing. So what is printed
is what the first attempt chose, and nothing else has a say in it but the filter of the
environment, which goes before the level.

There is one way not to close the matter. Reading the filter may have a defect, and this
ends the attempt before it counts. But nothing has changed then, and the level has no
say in it, so all later attempts meet the same defect.

This holds for every library that reads filters, receives notes and prints them, if it
does what `Library.Lawful` says.

* `standard_lawful`: the library that printing runs on is one of those;
* `SetsUp`: all that a first attempt can come to (`setUp_setsUp`);
* `setUpAll_of_closed`, `setUpAll_of_cutShort`: what follows it, by induction on the
  attempts;
* `first_set_up_counts`: all of this together;
* `set_up_can_be_cut_short`: not every second attempt succeeds.
-/

namespace GraphReplay.Log

/-! ## The library that printing runs on -/

theorem once_lawful : once.Lawful where
  closed_new := rfl
  pass_closed _ _ h := if_pos h
  pass_done {_ g _ _ _} hopen hwork := by
    obtain rfl : g = false := hopen
    exact ⟨true, rfl, by simp [once, hwork]⟩
  pass_defect {_ g _ _ _ _} hopen hwork := by
    obtain rfl : g = false := hopen
    simp [once, hwork]

/-- The name of a level is read as the filter that lets the level and all above it through. -/
theorem Filter.parse_word (l : Level) : parse l.word = .ok ⟨[{ depth := l.depth }]⟩ := by
  cases l <;> decide +kernel

theorem standard_lawful : standard.Lawful where
  toLawful := once_lawful
  readFilter_word l := ⟨_, Filter.parse_word l⟩
  fill_vacant {p} r hvacant := by
    obtain rfl : p = none := hvacant
    exact ⟨some r, rfl, rfl⟩
  fill_taken {p r'} r htaken := by
    obtain rfl : p = some r' := htaken
    rfl

/-! ## Attempts -/

/-- An attempt to set up printing. -/
inductive Call
  /-- With a configuration. -/
  | chosen (c : Config)
  /-- With the one that the environment chooses. -/
  | fromEnvironment
  deriving DecidableEq, Repr

/-- The configuration of an attempt. -/
def Call.config (env : Environment) : Call → Config
  | .chosen c => c
  | .fromEnvironment => .ofEnvironment env

namespace Library

variable {L : Library} {env env' : Environment} {c : Config} {place : L.Place}

/-! ## The filter of an attempt -/

theorem filterFor_of_text {text : String} (h : env "RUST_LOG" = some text) (hne : text ≠ "")
    (l : Level) : L.filterFor env l = L.readFilter text := by
  simp [filterFor, h, hne]

theorem filterFor_of_no_text (h : (env "RUST_LOG").getD "" = "") (l : Level) :
    L.filterFor env l = L.readFilter l.word := by
  rw [filterFor]
  cases henv : env "RUST_LOG" with
  | none => rfl
  | some text =>
    obtain rfl : text = "" := by rwa [henv] at h
    rfl

theorem filterFor_congr (h : env' "RUST_LOG" = env "RUST_LOG") (l : Level) :
    L.filterFor env' l = L.filterFor env l := by
  rw [filterFor, h, filterFor]

/-- A defect of the filter is one of the text in the environment, because the names of levels have
    none. So it does not depend on the level. -/
theorem Lawful.filterFor_eq_defect (hL : L.Lawful) {l : Level} {d : Defect}
    (h : L.filterFor env l = .error (.defect d)) :
    (∃ text, env "RUST_LOG" = some text ∧ L.readFilter text = .error (.defect d)) ∧
      ∀ l', L.filterFor env l' = .error (.defect d) := by
  by_cases hno : (env "RUST_LOG").getD "" = ""
  · obtain ⟨filter, hword⟩ := hL.readFilter_word l
    rw [filterFor_of_no_text hno, hword] at h
    cases h
  · cases henv : env "RUST_LOG" with
    | none => exact absurd (by rw [henv]; rfl) hno
    | some text =>
      have hne : text ≠ "" := by rwa [henv] at hno
      rw [filterFor_of_text henv hne] at h
      exact ⟨⟨text, rfl, h⟩, fun l' => by rw [filterFor_of_text henv hne, h]⟩

/-! ## What attempts come to -/

theorem attempt_of_defect {d : Defect} (h : L.filterFor env c.level = .error (.defect d))
    {kept : Except L.SetupError Unit} :
    attempt env c (kept, place) = (.error d, kept, place) := by
  simp only [attempt, install, h]

/-- What all later attempts are answered, by what the first one was. -/
def Answer.later : L.Answer → L.Answer
  | .error (.defect d) => .error (.defect d)
  | _ => .ok ()

namespace Installation

/-- A process in which nobody has tried to set up printing. -/
def start (place : L.Place) : L.Installation := { receiver := place }

/-- Set up printing some times in turn. -/
def setUpAll (p : L.Installation) (env : Environment) :
    List Call → List L.Answer × L.Installation
  | [] => ([], p)
  | c :: cs =>
    let (answer, p') := p.setUp env (c.config env)
    let (answers, p'') := p'.setUpAll env cs
    (answer :: answers, p'')

/-- What is printed of what a session tells while it does some commands. -/
def printed (p : L.Installation) (s : Session) (commands : List Session.Command) : List L.Line :=
  p.lines ((s.run commands).1.flatMap Session.Reply.notes)

/-- What the first attempt chooses for the printer that it installs. -/
def chosen (place : L.Place) (env : Environment) (c : Config) : Option (L.Filter × Layout) :=
  match L.holder? place, L.filterFor env c.level with
  | none, .ok filter => some (filter, c.layout)
  | _, _ => none

/-- All that the first attempt can come to. -/
inductive SetsUp (place : L.Place) (env : Environment) (c : Config) :
    L.Answer → L.Installation → Prop
  | installed {filter : L.Filter} {place' : L.Place} {gate : L.Gate} :
      L.filterFor env c.level = .ok filter → L.holder? place = none →
      L.holder? place' = some (L.printer env c.layout filter) → L.closed gate = true →
      SetsUp place env c (.ok ()) ⟨place', gate⟩
  | taken {filter : L.Filter} {r : L.Receiver} {gate : L.Gate} :
      L.filterFor env c.level = .ok filter → L.holder? place = some r → L.closed gate = true →
      SetsUp place env c (.error (.error .alreadyInstalled)) ⟨place, gate⟩
  | unreadable {e : L.FilterError} {gate : L.Gate} :
      L.filterFor env c.level = .error (.error e) → L.closed gate = true →
      SetsUp place env c (.error (.error (.invalidFilter e))) ⟨place, gate⟩
  | cutShort {d : Defect} : L.filterFor env c.level = .error (.defect d) →
      SetsUp place env c (.error (.defect d)) (start place)

variable {p p' : L.Installation} {answer answer' : L.Answer}

theorem setUp_of_done (hL : L.Lawful) {place' : L.Place} {kept : Except L.SetupError Unit}
    (h : attempt env c (.ok (), place) = (.ok (), kept, place')) :
    ∃ gate, L.closed gate = true ∧
      (start place).setUp env c = (kept.mapError .error, ⟨place', gate⟩) := by
  obtain ⟨gate, hgate, hpass⟩ := hL.pass_done (g := (start place).gate) hL.closed_new h
  refine ⟨gate, hgate, ?_⟩
  rw [setUp, show (start place).receiver = place from rfl, hpass]

theorem setUp_of_defect (hL : L.Lawful) {place' : L.Place} {kept : Except L.SetupError Unit}
    {d : Defect} (h : attempt env c (.ok (), place) = (.error d, kept, place')) :
    (start place).setUp env c = (.error (.defect d), start place') := by
  rw [setUp, show (start place).receiver = place from rfl,
    hL.pass_defect (g := (start place).gate) hL.closed_new h]
  rfl

theorem setUp_setsUp (hL : L.Lawful) (place : L.Place) (env : Environment) (c : Config) :
    SetsUp place env c ((start place).setUp env c).1 ((start place).setUp env c).2 := by
  cases hfilter : L.filterFor env c.level with
  | error f =>
    cases f with
    | error e =>
      have hwork : attempt env c (.ok (), place) = (.ok (), .error (.invalidFilter e), place) := by
        simp only [attempt, install, hfilter]
      obtain ⟨gate, hgate, heq⟩ := setUp_of_done hL hwork
      rw [heq]
      exact .unreadable hfilter hgate
    | defect d =>
      rw [setUp_of_defect hL (attempt_of_defect hfilter)]
      exact .cutShort hfilter
  | ok filter =>
    cases hholder : L.holder? place with
    | none =>
      obtain ⟨place', hfill, hholder'⟩ := hL.fill_vacant (L.printer env c.layout filter) hholder
      have hwork : attempt env c (.ok (), place) = (.ok (), .ok (), place') := by
        simp only [attempt, install, hfilter, hfill]
      obtain ⟨gate, hgate, heq⟩ := setUp_of_done hL hwork
      rw [heq]
      exact .installed hfilter hholder hholder' hgate
    | some r =>
      have hfill := hL.fill_taken (L.printer env c.layout filter) hholder
      have hwork : attempt env c (.ok (), place) = (.ok (), .error .alreadyInstalled, place) := by
        simp only [attempt, install, hfilter, hfill]
      obtain ⟨gate, hgate, heq⟩ := setUp_of_done hL hwork
      rw [heq]
      exact .taken hfilter hholder hgate

/-- An attempt that is answered closes the matter. -/
theorem setUpAll_of_closed (hL : L.Lawful) (h : L.closed p.gate = true) (env : Environment)
    (cs : List Call) : p.setUpAll env cs = (cs.map fun _ => .ok (), p) := by
  induction cs with
  | nil => rfl
  | cons c cs ih =>
    have hclosed : p.setUp env (c.config env) = (.ok (), p) := by
      rw [setUp, hL.pass_closed _ _ h]
      rfl
    rw [setUpAll, hclosed]
    simp only [ih, List.map_cons]

/-- One that a defect cuts short changes nothing, so the next one meets the same defect, whatever its
    configuration is. -/
theorem setUpAll_of_cutShort (hL : L.Lawful) {d : Defect}
    (h : ∀ l, L.filterFor env l = .error (.defect d)) (place : L.Place) (cs : List Call) :
    (start place).setUpAll env cs = (cs.map fun _ => .error (.defect d), start place) := by
  induction cs with
  | nil => rfl
  | cons c cs ih =>
    rw [setUpAll, setUp_of_defect hL (attempt_of_defect (h _))]
    simp only [ih, List.map_cons]

namespace SetsUp

/-- What the first attempt came to decides about all others. -/
theorem setUpAll_eq {call : Call} (hL : L.Lawful)
    (h : SetsUp place env (call.config env) answer p) (cs : List Call) :
    p.setUpAll env cs = (cs.map fun _ => answer.later, p) := by
  cases h with
  | installed _ _ _ hgate => exact setUpAll_of_closed hL hgate env cs
  | taken _ _ hgate => exact setUpAll_of_closed hL hgate env cs
  | unreadable _ hgate => exact setUpAll_of_closed hL hgate env cs
  | cutShort hd => exact setUpAll_of_cutShort hL (hL.filterFor_eq_defect hd).2 place cs

theorem holder?_eq (h : SetsUp place env c answer p) :
    L.holder? p.receiver = ((chosen place env c).map fun (filter, layout) =>
      L.printer env layout filter).or (L.holder? place) := by
  cases h with
  | installed hfilter hnone hholder _ => simp [chosen, hfilter, hnone, hholder]
  | taken hfilter hsome _ => simp [chosen, hsome]
  | unreadable hfilter _ => cases hplace : L.holder? place <;> simp [chosen, hfilter, hplace]
  | cutShort hfilter => cases hplace : L.holder? place <;> simp [chosen, hfilter, hplace, start]

/-- The environment has a say in the answer by its filter. -/
theorem answer_eq (h : SetsUp place env c answer p) (h' : SetsUp place env' c answer' p')
    (henv : env' "RUST_LOG" = env "RUST_LOG") : answer' = answer := by
  have hfilter : L.filterFor env' c.level = L.filterFor env c.level := filterFor_congr henv c.level
  cases h <;> cases h' <;> simp_all

end SetsUp

theorem setUpAll_cons (hL : L.Lawful) (place : L.Place) (env : Environment) (c : Call)
    (cs : List Call) :
    (start place).setUpAll env (c :: cs) =
      (((start place).setUp env (c.config env)).1 ::
          cs.map fun _ => Answer.later ((start place).setUp env (c.config env)).1,
        ((start place).setUp env (c.config env)).2) := by
  rw [setUpAll]
  dsimp only
  rw [(setUp_setsUp hL place env (c.config env)).setUpAll_eq hL cs]

theorem chosen_congr (h : env' "RUST_LOG" = env "RUST_LOG") (place : L.Place) (c : Config) :
    chosen place env' c = chosen place env c := by
  rw [chosen, filterFor_congr h, chosen]

/-- The first attempt to set up printing is the only one that counts, whatever it comes to. If it is
    answered, with an error or without, all later ones succeed and change nothing. If a defect
    cuts it short, that is one of reading the filter of the environment; then nothing has changed,
    and all later ones meet the same defect. So as much is printed of any session as if the first
    one had been the only one. Who receives the notes, with which filter and in which layout, is
    chosen by its configuration and by the filter of the environment alone. That filter goes
    before the level, unless it is absent or empty. -/
theorem first_set_up_counts (hL : L.Lawful) (env : Environment) (place : L.Place) (c : Call)
    (cs : List Call) :
    ∃ answer p, (start place).setUp env (c.config env) = (answer, p) ∧
      SetsUp place env (c.config env) answer p ∧
      ((∀ d, answer ≠ .error (.defect d)) →
        (start place).setUpAll env (c :: cs) = (answer :: cs.map fun _ => .ok (), p)) ∧
      (∀ d, answer = .error (.defect d) →
        (start place).setUpAll env (c :: cs) = (answer :: cs.map fun _ => answer, start place) ∧
          ∃ text, env "RUST_LOG" = some text ∧ L.readFilter text = .error (.defect d)) ∧
      (∀ s commands, ((start place).setUpAll env (c :: cs)).2.printed s commands =
        ((start place).setUpAll env [c]).2.printed s commands) ∧
      (∀ env' c' cs', env' "RUST_LOG" = env "RUST_LOG" → c'.config env' = c.config env →
        ((start place).setUpAll env' (c' :: cs')).1.head? = some answer ∧
          L.holder? ((start place).setUpAll env' (c' :: cs')).2.receiver =
            ((chosen place env (c.config env)).map fun (filter, layout) =>
              L.printer env' layout filter).or (L.holder? place)) ∧
      (∀ text, env "RUST_LOG" = some text → text ≠ "" →
        ∀ l, L.filterFor env l = L.readFilter text) ∧
      ((env "RUST_LOG").getD "" = "" → ∀ l, L.filterFor env l = L.readFilter l.word) := by
  have hsets := setUp_setsUp hL place env (c.config env)
  have hall := setUpAll_cons hL place env c
  generalize hfirst : (start place).setUp env (c.config env) = first at *
  obtain ⟨answer, p⟩ := first
  refine ⟨answer, p, rfl, hsets, fun hanswered => ?answered, ?cutShort, fun s commands => ?printed,
    fun env' c' cs' henv hc => ?chosen, fun text => filterFor_of_text, filterFor_of_no_text⟩
  case answered =>
    rw [hall]
    cases hsets with
    | cutShort _ => exact absurd rfl (hanswered _)
    | _ => rfl
  case cutShort =>
    rintro d rfl
    rw [hall]
    cases hsets with
    | cutShort hd => exact ⟨rfl, (hL.filterFor_eq_defect hd).1⟩
  case printed => rw [hall, hall]
  case chosen =>
    have hsets' := setUp_setsUp hL place env' (c'.config env')
    rw [setUpAll_cons hL]
    rw [hc] at hsets' ⊢
    rw [hsets.answer_eq hsets' henv, hsets'.holder?_eq, chosen_congr henv]
    exact ⟨rfl, rfl⟩

/-- An environment that asks for a filter. -/
def asking (text : String) : Environment := fun name => if name = "RUST_LOG" then some text else none

theorem filterFor_asking {text : String} (hne : text ≠ "") (l : Level) :
    L.filterFor (asking text) l = L.readFilter text :=
  filterFor_of_text (by simp [asking]) hne l

/-- A filter that is cut inside a character when it is read. -/
theorem filterFor_cut (l : Level) : standard.filterFor (asking "\u00a0a=debug") l =
    .error (.defect (.splitCharacter .stop 1 '\u00a0' 0)) := by
  have hread : Filter.parse "\u00a0a=debug" =
      .error (.defect (.splitCharacter .stop 1 '\u00a0' 0)) := by decide +kernel
  exact (filterFor_asking (by decide) l).trans hread

/-- A filter that cannot be read closes the matter, and no printer is installed. One that is cut
    inside a character does not. -/
theorem first_set_up_counts_failed :
    (start none : standard.Installation).setUpAll (asking "foo=bar")
          [.chosen { format := .json }, .fromEnvironment] =
        ([.error (.error (.invalidFilter FilterError.badLevel)), .ok ()], ⟨none, true⟩) ∧
      (start (some .silent) : standard.Installation).setUpAll (asking "\u00a0a=debug")
          [.fromEnvironment, .chosen {}] =
        ([.error (.defect (.splitCharacter .stop 1 '\u00a0' 0)),
          .error (.defect (.splitCharacter .stop 1 '\u00a0' 0))], start (some .silent)) := by
  have hunreadable (l : Level) : standard.filterFor (asking "foo=bar") l =
      .error (.error FilterError.badLevel) := by
    have hread : Filter.parse "foo=bar" = .error (.error .badLevel) := by decide +kernel
    exact (filterFor_asking (by decide) l).trans hread
  obtain ⟨_, _, -, hsets, hanswered, -⟩ := first_set_up_counts standard_lawful (asking "foo=bar")
    none (.chosen { format := .json }) [.fromEnvironment]
  obtain ⟨_, _, -, hsets', -, hcutShort, -⟩ := first_set_up_counts standard_lawful
    (asking "\u00a0a=debug") (some .silent) .fromEnvironment [.chosen {}]
  refine ⟨?unreadable, ?cutShort⟩
  case unreadable =>
    cases hsets with
    | unreadable he hgate =>
      cases (hunreadable _).symm.trans he
      obtain rfl := hgate
      exact hanswered nofun
    | installed h | taken h | cutShort h => cases (hunreadable _).symm.trans h
  case cutShort =>
    cases hsets' with
    | cutShort hd =>
      cases (filterFor_cut _).symm.trans hd
      exact (hcutShort _ rfl).1
    | installed h | taken h | unreadable h => cases (filterFor_cut _).symm.trans h

/-- Not every attempt after the first succeeds, whatever may be relied on about the library. -/
theorem set_up_can_be_cut_short :
    standard.Lawful ∧
      ¬∀ (env : Environment) (place : standard.Place) (c : Call) (cs : List Call),
        (start place : standard.Installation).setUpAll env (c :: cs) =
          (((start place : standard.Installation).setUp env (c.config env)).1 ::
              cs.map fun _ => .ok (),
            ((start place : standard.Installation).setUp env (c.config env)).2) := by
  refine ⟨standard_lawful, fun h => ?_⟩
  have hclaimed := h (asking "\u00a0a=debug") none (.chosen {}) [.chosen {}]
  have hrun := setUpAll_of_cutShort standard_lawful filterFor_cut none [.chosen {}, .chosen {}]
  have hanswers := congrArg Prod.fst (hrun.symm.trans hclaimed)
  cases (List.cons.inj (List.cons.inj hanswers).2).1

end Installation

end Library

end GraphReplay.Log
