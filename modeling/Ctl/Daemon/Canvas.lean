import Ctl.Daemon.Ownership

/-!
# Layouts fit their canvas

A layout has a geometry exactly when its minimum fits the canvas. Operations on an open session check
this or raise the canvas to the minimum; only the canvas of a new session is taken as it comes, from
the client or from the size of the moved terminal. So every view has a geometry as long as no session
is opened on less than two columns and one row.
-/

namespace Ctl.Daemon
open Ctl.Base Ctl.Proto Ctl.Core

/-- A canvas on which a single terminal fits. -/
def Roomy (size : TerminalSize) : Prop := 2 ≤ size.columns.toNat ∧ 1 ≤ size.rows.toNat
  deriving Decidable

namespace Registry

def Fitting (r : Registry) : Prop :=
  ∀ k session, AList.lookup k r.sessions = some session →
    session.view.layout.Fits session.view.canvasSize

variable {r r' : Registry} {session : Session} {event : Event}

lemma Fitting.alike (fits : r.Fitting) (h : Alike r r') : r'.Fitting := by
  intro k session' found
  obtain ⟨session, found, same⟩ := h.lookup found
  have fits : session.unleased.view.layout.Fits session.unleased.view.canvasSize :=
    fits k session found
  rw [same] at fits
  exact fits

lemma Fitting.withSession (fits : r.Fitting) {k : String} (fit : session.view.layout.Fits session.view.canvasSize) :
    (r.withSession k session).Fitting := by
  intro k' other found
  rw [lookup_withSession] at found
  split at found
  · cases found
    exact fit
  · exact fits k' other found

lemma Fitting.erase (fits : r.Fitting) (k : String) : Fitting { r with sessions := AList.erase k r.sessions } := by
  intro k' other found
  by_cases eq : k' = k
  · rw [eq] at found
    rw [AList.lookup_erase] at found
    cases found
  · exact fits k' other ((AList.lookup_erase_ne eq).symm.trans found)

lemma without_fits {id : String} {terminal : Terminal} {layout : ViewLayout} (fine : SessionOk session)
    (removed : session.view.layout.removeTerminal id = some layout)
    (fits : session.view.layout.Fits session.view.canvasSize) :
    (without terminal layout session).view.layout.Fits session.view.canvasSize := by
  have spec := ViewLayout.removeTerminal_spec id fine.shape
  rw [removed] at spec
  obtain ⟨-, -, columns, rows⟩ := spec
  exact ⟨columns.trans fits.1, rows.trans fits.2⟩

lemma Change.fitting (h : Change r event r') (owned : r.Owned) (fits : r.Fitting)
    (roomy : ∀ size ∈ event.size, Roomy size) : r'.Fitting := by
  cases h with
  | none => exact fits
  | edit found edit => exact fits.withSession (edit.fits (fits _ _ found))
  | rename found _ _ =>
    have fit := fits _ _ found
    rw [Fitting, editTerminals_sessions]
    exact fits.withSession fit
  | merge _ _ _ _ _ fit =>
    rw [Fitting, editTerminals_sessions]
    exact (fits.erase _).withSession fit
  | create _ _ _ => exact fits.withSession (roomy _ rfl)
  | join _ _ _ _ _ _ _ _ fit => exact fits.withSession fit
  | @move id k terminal session layout owner _ _ _ found removed _ =>
    have rest : (r.withSession k (without terminal layout session)).Fitting :=
      fits.withSession (without_fits (owned.session k session found) removed (fits k session found))
    exact Fitting.withSession rest
      (roomy _ rfl)
  | shrink _ _ _ found removed =>
    exact fits.withSession (without_fits (owned.session _ _ found) removed (fits _ _ found))
  | close _ _ _ _ _ => exact fits.erase _

lemma Effect.fitting (h : Effect r event r') (owned : r.Owned) (fits : r.Fitting)
    (roomy : ∀ size ∈ event.size, Roomy size) : r'.Fitting := by
  obtain ⟨before, after, alike, ⟨changed, change, calm⟩, alike'⟩ := h
  have fitting := change.fitting (owned.alike alike) (fits.alike alike) roomy
  exact (fitting.alike (.of_calm calm)).alike alike'

lemma viewInfo_ok (owned : r.Owned) (fits : r.Fitting) {selector : String} (found : r.root selector = .ok session) :
    ∃ info, r.viewInfo selector = .ok info := by
  have there := root_spec owned found
  have fine := owned.session _ session there
  obtain ⟨panes, placed, -⟩ :=
    (ViewLayout.paneGeometry_tiles fine.shape.wellFormed session.view.canvasSize).1
      (fits _ session there)
  unfold viewInfo
  rw [found, Res.ok_bind]
  dsimp only
  rw [placed]
  exact ⟨_, rfl⟩

end Registry

namespace World
open Registry

/-- A step opens no session on less than two columns and one row. -/
def OpensRoomy (w : World) (action : Action) : Prop := ∀ size ∈ w.opens action, Roomy size

instance (w : World) (action : Action) : Decidable (w.OpensRoomy action) :=
  inferInstanceAs (Decidable (∀ size ∈ w.opens action, Roomy size))

lemma step_fitting {w w' : World} {action : Action} (owned : w.registry.Owned) (fits : w.registry.Fitting)
    (roomy : w.OpensRoomy action) (h : w.step action = some w') : w'.registry.Fitting := by
  obtain ⟨event, effect, size⟩ := (step_transition owned h).effect
  exact effect.fitting owned fits fun s hs => roomy s (size s hs)

/-- In every run that opens sessions on enough room only, every layout has a geometry on its canvas and
    every view can be shown. -/
theorem reachable_geometry {w : World} (h : ReachableWhile step Initial OpensRoomy w) :
    (∀ k session, AList.lookup k w.registry.sessions = some session →
      ∃ panes, session.view.layout.paneGeometry session.view.canvasSize = .ok panes) ∧
    ∀ selector session, w.registry.root selector = .ok session →
      ∃ info, w.registry.viewInfo selector = .ok info := by
  obtain ⟨owned, fits⟩ : w.registry.Owned ∧ w.registry.Fitting := by
    refine h.invariant (fun w => w.registry.Owned ∧ w.registry.Fitting) ?_ ?_
    · rintro s start
      refine ⟨initial_owned start, ?_⟩
      cases start
      rintro _ _ ⟨⟩
    · rintro s action s' ⟨owned, fits⟩ roomy step
      exact ⟨step_owned owned step, step_fitting owned fits roomy step⟩
  refine ⟨fun k session found => ?_, fun selector session found => viewInfo_ok owned fits found⟩
  obtain ⟨panes, placed, -⟩ := (ViewLayout.paneGeometry_tiles
    (owned.session k session found).shape.wellFormed session.view.canvasSize).1
    (fits k session found)
  exact ⟨panes, placed⟩

theorem reachable_geometry_promotion :
    ∃ w, exec step ⟨.default, ∅⟩ promotion = some w ∧
      (∀ k session, AList.lookup k w.registry.sessions = some session →
        ∃ panes, session.view.layout.paneGeometry session.view.canvasSize = .ok panes) ∧
      ∀ selector session, w.registry.root selector = .ok session →
        ∃ info, w.registry.viewInfo selector = .ok info := by
  obtain ⟨w, run, -⟩ := (Option.any_eq_true _ _).1 promotion_facts
  exact ⟨w, run, reachable_geometry (ReachableWhile.exec (.start rfl) promotion run (by decide +kernel))⟩

def narrowSession : List Action :=
  [.begin 0 (.create (some "narrow") "t1" ⟨1, 24, 0, 0⟩ false), .reserve 0, .commit 0 "s1" "v1" 0]

/-- The session of a single column exists and its view cannot be shown. -/
theorem narrowSession_without_geometry :
    ∃ w session, Reachable step Initial w ∧ exec step ⟨.default, ∅⟩ narrowSession = some w ∧
      AList.lookup "s1" w.registry.sessions = some session ∧
      (¬ ∃ panes, session.view.layout.paneGeometry session.view.canvasSize = .ok panes) ∧
      ¬ ∃ info, w.registry.viewInfo "s1" = .ok info :=
  ⟨_, _, Reachable.exec (.start rfl) narrowSession rfl, rfl, rfl,
    (by rintro ⟨_, ⟨⟩⟩), by rintro ⟨_, ⟨⟩⟩⟩

end World

end Ctl.Daemon
