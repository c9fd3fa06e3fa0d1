import GraphReplay.Defect
import GraphReplay.Log.Config
import GraphReplay.Log.Note

/-!
# What printing is built on

Printing is put together from what others provide. A library does something once
in a process (`Once`); another reads filters, takes notes in and prints them
(`Library`). Which filters there are, what they let through and what a line looks
like is left open.

What is relied on is little:

* `Once.Lawful`: a gate closes behind the first one who gets through, and one who
  meets a defect does not get through;
* `Library.Lawful`: the names of levels are filters, and the place for a receiver
  is filled at most once. Any other filter may be refused, and reading it may have
  a defect.
-/

namespace GraphReplay.Log

/-- Doing something once. It changes a state, and a defect may end it. -/
structure Once where
  /-- Whether it was done. -/
  Gate : Type
  /-- Nothing was done. -/
  new : Gate
  closed : Gate → Bool
  /-- Do it, unless it was done. -/
  pass {σ : Type} : Gate → (σ → Except Defect Unit × σ) → σ → Except Defect Unit × σ × Gate

/-- What is relied on about doing something once. -/
structure Once.Lawful (O : Once) : Prop where
  closed_new : O.closed O.new = false
  /-- Behind a closed gate nothing is done. -/
  pass_closed {σ : Type} {g : O.Gate} (work : σ → Except Defect Unit × σ) (s : σ) :
    O.closed g = true → O.pass g work s = (.ok (), s, g)
  /-- The gate closes behind what was done. -/
  pass_done {σ : Type} {g : O.Gate} {work : σ → Except Defect Unit × σ} {s s' : σ} :
    O.closed g = false → work s = (.ok (), s') →
      ∃ g', O.closed g' = true ∧ O.pass g work s = (.ok (), s', g')
  /-- What meets a defect leaves the gate as it was. -/
  pass_defect {σ : Type} {g : O.Gate} {work : σ → Except Defect Unit × σ} {s s' : σ} {d : Defect} :
    O.closed g = false → work s = (.error d, s') → O.pass g work s = (.error d, s', g)

/-- Reading filters, and receiving and printing notes. -/
structure Library extends Once where
  /-- What is let through. -/
  Filter : Type
  /-- Why a text is no filter. -/
  FilterError : Type
  filterMessage : FilterError → String
  readFilter : String → Except (Failure FilterError) Filter
  /-- Who receives notes. -/
  Receiver : Type
  /-- The one who prints what a filter lets through. -/
  printer : Environment → Layout → Filter → Receiver
  /-- A printed line. -/
  Line : Type
  /-- What is printed of some notes. -/
  lines : Receiver → List Note → List Line
  /-- The place for a receiver in a process. -/
  Place : Type
  holder? : Place → Option Receiver
  /-- Fill the place, or else refuse to. -/
  fill : Receiver → Place → Bool × Place
  /-- The words in which that is refused. -/
  refusal : String

/-- What is relied on about the library. -/
structure Library.Lawful (L : Library) : Prop extends L.toOnce.Lawful where
  /-- The name of a level is a filter. -/
  readFilter_word (l : Level) : ∃ f, L.readFilter l.word = .ok f
  /-- Whoever comes first gets the place. -/
  fill_vacant {p : L.Place} (r : L.Receiver) :
    L.holder? p = none → ∃ p', L.fill r p = (true, p') ∧ L.holder? p' = some r
  /-- Whoever comes later is refused, and nothing changes. -/
  fill_taken {p : L.Place} {r' : L.Receiver} (r : L.Receiver) :
    L.holder? p = some r' → L.fill r p = (false, p)

end GraphReplay.Log
