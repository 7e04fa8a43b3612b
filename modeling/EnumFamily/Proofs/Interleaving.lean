import EnumFamily.Proofs.Publishing

/-!
# Runs that overlap

A server answers several notifications at a time. A run analyses its package, puts
the flagged files in the place of the old ones, and then sends its messages one by
one; between any two of these steps other runs may take theirs.

Markers that the editor shows are orphaned if the session does not count their file
among those of the package that they came from: no later run clears them. Between
the step that replaces the flagged files and the last message, a second run on the
same package may replace them and clear a file for which the first one has yet to
send markers, so markers can be orphaned. As long as no two runs on one package
send their messages at the same time, they are not.

Results:
* `Accounted.step`, `Reaches.accounted`: without such an overlap, what is shown or
  about to be shown is counted, or about to be cleared.
* `reaches_serve`: there is none when notifications are handled one at a time.
* `no_orphans`: without an overlap no markers are orphaned once all handlers are done.
* `overlap_orphans`: with an overlap markers can be orphaned.
-/
namespace EnumFamily

open Session (Notification isSource)

/-! ## Handlers -/

/-- The messages of an update in an order in which they may be sent: stale files
come first, and otherwise any order will do. -/
def Update.Sends (u : Update) (stale : List String) (left : List ClientMessage) : Prop :=
  ∃ stale' files, stale'.Perm stale ∧ files.Perm u.files ∧
    left = { u with files }.messages stale'

theorem Update.sends_messages (u : Update) (stale : List String) :
    u.Sends stale (u.messages stale) :=
  ⟨stale, u.files, List.Perm.refl _, List.Perm.refl _, rfl⟩

theorem Update.Sends.perm {u : Update} {stale : List String} {left : List ClientMessage}
    (h : u.Sends stale left) : left.Perm (u.messages stale) := by
  obtain ⟨stale', files, hstale, hfiles, rfl⟩ := h
  exact ((hstale.map _).append (hfiles.map _)).append_right _

/-- How far the answer to a notification has come. -/
inductive Handler where
  /-- the package of a file is to be analysed -/
  | asked (uri : Uri)
  /-- the flagged files are to be replaced -/
  | analysed (u : Update)
  /-- messages are to be sent, in a run on a package or outside of runs -/
  | sending (root : Option String) (left : List ClientMessage)

namespace Handler

def ofNotification : Notification → Handler
  | .started => .sending none [.log .info "Enumspot LSP server initialized"]
  | .opened uri => if isSource uri then .asked uri else .sending none []
  | .saved uri => if isSource uri then .asked uri else .sending none []
  | .changed _ => .sending none []
  | .closed uri => .sending none [.publish uri.text []]

/-- One step of a handler, with what it sends. An analysis reads the files as they
are on disk at that time. -/
inductive Step (s : Session) :
    Handler → Session → Handler → List (Option String × ClientMessage) → Prop
  | analyse {t : FileTree} {uri : Uri} {u : Update}
      (h : Session.compute t s.options uri = .ok u) :
      Step s (.asked uri) s (.analysed u) []
  | fail {t : FileTree} {uri : Uri} {kind : LogKind} {text : String}
      (h : Session.compute t s.options uri = .error (kind, text)) :
      Step s (.asked uri) s (.sending none [.log kind text]) []
  | replace {u : Update} {left : List ClientMessage} (h : u.Sends (s.replace u).2 left) :
      Step s (.analysed u) (s.replace u).1 (.sending (some u.root) left) []
  | send {root : Option String} {m : ClientMessage} {left : List ClientMessage} :
      Step s (.sending root (m :: left)) s (.sending root left) [(root, m)]

/-- The package on which a run is sending. -/
def root? : Handler → Option String
  | .sending root _ => root
  | _ => none

/-- What a run on a package has yet to send. -/
def pending (root : String) : Handler → List ClientMessage
  | .sending (some r) left => if r = root then left else []
  | _ => []

@[simp] theorem pending_asked (root : String) (uri : Uri) : (asked uri).pending root = [] := rfl

@[simp] theorem pending_analysed (root : String) (u : Update) :
    (analysed u).pending root = [] := rfl

@[simp] theorem pending_outside (root : String) (left : List ClientMessage) :
    (sending none left).pending root = [] := rfl

theorem pending_sending (root r : String) (left : List ClientMessage) :
    (sending (some r) left).pending root = if r = root then left else [] := rfl

@[simp] theorem pending_done (root : String) (o : Option String) :
    (sending o []).pending root = [] := by
  cases o with
  | none => rfl
  | some r => simp [pending_sending]

@[simp] theorem pending_ofNotification (root : String) (n : Notification) :
    (ofNotification n).pending root = [] := by
  cases n with
  | opened uri | saved uri =>
    simp only [ofNotification]
    split <;> rfl
  | _ => rfl

theorem pending_eq_nil {root : String} {h : Handler} (hroot : h.root? ≠ some root) :
    h.pending root = [] := by
  cases h with
  | sending o left =>
    cases o with
    | none => rfl
    | some r => exact if_neg fun heq => hroot (congrArg some heq)
  | _ => rfl

end Handler

/-! ## Servers -/

structure Server where
  session : Session
  handlers : List Handler := []
  /-- what was sent, with the package of the run that sent it -/
  sent : List (Option String × ClientMessage) := []

namespace Server

/-- A notification comes in, a handler takes a step, or a handler is done. -/
inductive Step : Server → Server → Prop
  | receive (v : Server) (n : Notification) :
      Step v { v with handlers := v.handlers ++ [.ofNotification n] }
  | advance {s s' : Session} {h h' : Handler} {l₁ l₂ : List Handler}
      {sent out : List (Option String × ClientMessage)} (hstep : h.Step s s' h' out) :
      Step ⟨s, l₁ ++ h :: l₂, sent⟩ ⟨s', l₁ ++ h' :: l₂, sent ++ out⟩
  | finish {s : Session} {root : Option String} {l₁ l₂ : List Handler}
      {sent : List (Option String × ClientMessage)} :
      Step ⟨s, l₁ ++ .sending root [] :: l₂, sent⟩ ⟨s, l₁ ++ l₂, sent⟩

/-- The states to which steps can lead through allowed states, once a session has
started. -/
inductive Reaches (allowed : Server → Prop) : Server → Prop
  | start {options : Option Json} {s : Session} {answer : Json}
      (hstart : Session.start? {} options = .ok (s, answer)) : Reaches allowed { session := s }
  | step {v v' : Server} (hv : Reaches allowed v) (hstep : v.Step v') (hallowed : allowed v') :
      Reaches allowed v'

/-- The last list that was published for a file, with the package of its run. -/
def lastFrom (sent : List (Option String × ClientMessage)) (uri : String) :
    Option (Option String × List Marker) :=
  lastSome (fun e => (e.2.markersFor? uri).map (e.1, ·)) sent

/-- Markers that are shown are counted for the package that they came from. -/
def NoOrphans (v : Server) : Prop :=
  ∀ uri root markers, lastFrom v.sent uri = some (some root, markers) → markers ≠ [] →
    uri ∈ v.session.publishedFor root

/-- No two runs on one package are sending. -/
def Exclusive (v : Server) : Prop := (v.handlers.filterMap Handler.root?).Nodup

/-- What runs on a package have yet to send. -/
def pending (v : Server) (root : String) : List ClientMessage :=
  v.handlers.flatMap (Handler.pending root)

/-- Markers that are shown or about to be shown are counted for the package that
they came from, or about to be cleared. -/
structure Accounted (v : Server) : Prop where
  unsent : ∀ root uri markers, .publish uri markers ∈ v.pending root → markers ≠ [] →
    uri ∈ v.session.publishedFor root
  shown : ∀ root uri markers, lastFrom v.sent uri = some (some root, markers) → markers ≠ [] →
    uri ∈ v.session.publishedFor root ∨ .publish uri [] ∈ v.pending root

/-! ## What one step preserves -/

theorem Accounted.congr {v v' : Server} (hv : v.Accounted) (hsession : v'.session = v.session)
    (hsent : v'.sent = v.sent) (hpending : ∀ root, v'.pending root = v.pending root) :
    v'.Accounted where
  unsent root uri markers := by
    rw [hsession, hpending]
    exact hv.unsent root uri markers
  shown root uri markers := by
    rw [hsession, hsent, hpending]
    exact hv.shown root uri markers

section
variable {s s' : Session} {u : Update} {l₁ l₂ : List Handler} {left : List ClientMessage}
  {sent : List (Option String × ClientMessage)} {root : Option String} {m : ClientMessage}

/-- The other handlers of a run's package have nothing pending. -/
theorem pending_of_exclusive
    (hexclusive : Exclusive ⟨s, l₁ ++ .sending (some u.root) left :: l₂, sent⟩) :
    ∀ h ∈ l₁ ++ l₂, h.pending u.root = [] := by
  intro h hh
  refine Handler.pending_eq_nil fun hroot => ?_
  have hnodup : (u.root :: (l₁ ++ l₂).filterMap Handler.root?).Nodup :=
    (List.perm_middle.filterMap Handler.root?).nodup_iff.mp hexclusive
  exact (List.nodup_cons.mp hnodup).1 (List.mem_filterMap.mpr ⟨h, hh, hroot⟩)

/-- When a run replaces the flagged files, nothing is pending for its package but
what it is going to send. -/
theorem pending_replace
    (hexclusive : Exclusive ⟨s', l₁ ++ .sending (some u.root) left :: l₂, sent⟩) :
    pending ⟨s, l₁ ++ .analysed u :: l₂, sent⟩ u.root = [] ∧
      pending ⟨s', l₁ ++ .sending (some u.root) left :: l₂, sent⟩ u.root = left := by
  have hnone : (l₁ ++ l₂).flatMap (Handler.pending u.root) = [] :=
    List.flatMap_eq_nil_iff.mpr (pending_of_exclusive hexclusive)
  rw [List.flatMap_append, List.append_eq_nil_iff] at hnone
  constructor
  · simp [pending, hnone]
  · simp [pending, hnone, Handler.pending_sending]

theorem pending_replace_of_ne {r : String} (hr : r ≠ u.root) :
    pending ⟨s', l₁ ++ .sending (some u.root) left :: l₂, sent⟩ r =
      pending ⟨s, l₁ ++ .analysed u :: l₂, sent⟩ r := by
  simp [pending, Handler.pending_sending, Ne.symm hr]

theorem Accounted.replace (hv : Accounted ⟨s, l₁ ++ .analysed u :: l₂, sent⟩)
    (hsends : u.Sends (s.replace u).2 left)
    (hexclusive : Exclusive ⟨(s.replace u).1, l₁ ++ .sending (some u.root) left :: l₂, sent⟩) :
    Accounted ⟨(s.replace u).1, l₁ ++ .sending (some u.root) left :: l₂, sent⟩ := by
  obtain ⟨hbefore, hafter⟩ := pending_replace hexclusive
  refine ⟨fun root uri markers hpending hne => ?_, fun root uri markers hlast hne => ?_⟩
  · by_cases hroot : root = u.root
    · subst hroot
      rw [hafter, hsends.perm.mem_iff] at hpending
      rw [Session.publishedFor_replace]
      rcases Update.of_publish_mem hpending with ⟨-, hnil⟩ | hfile
      · exact absurd hnil hne
      · exact List.mem_map_of_mem hfile
    · rw [pending_replace_of_ne hroot] at hpending
      rw [Session.publishedFor_replace_of_ne s hroot]
      exact hv.unsent root uri markers hpending hne
  · by_cases hroot : root = u.root
    · subst hroot
      rw [hafter, hsends.perm.mem_iff, Session.publishedFor_replace]
      -- The file was counted, so it is flagged again or stale.
      rcases hv.shown u.root uri markers hlast hne with hcounted | hpending
      · by_cases hflagged : uri ∈ u.flagged
        · exact Or.inl hflagged
        · exact Or.inr (Update.mem_messages_iff.mpr
            (Or.inl ⟨uri, Session.mem_stale_iff.mpr ⟨hcounted, hflagged⟩, rfl⟩))
      · rw [hbefore] at hpending
        exact absurd hpending List.not_mem_nil
    · rw [pending_replace_of_ne hroot, Session.publishedFor_replace_of_ne s hroot]
      exact hv.shown root uri markers hlast hne

theorem lastFrom_concat (uri : String) :
    lastFrom (sent ++ [(root, m)]) uri =
      ((m.markersFor? uri).map (root, ·)).or (lastFrom sent uri) := by
  rw [lastFrom, lastSome_append]
  simp [lastSome, lastFrom]

theorem mem_pending_send {r : String} {x : ClientMessage} :
    x ∈ pending ⟨s, l₁ ++ .sending root (m :: left) :: l₂, sent⟩ r ↔
      (root = some r ∧ x = m) ∨ x ∈ pending ⟨s, l₁ ++ .sending root left :: l₂, sent⟩ r := by
  cases root with
  | none => simp [pending]
  | some r' =>
    by_cases hr : r' = r
    · simp [pending, Handler.pending_sending, hr, or_left_comm]
    · simp [pending, Handler.pending_sending, hr]

theorem Accounted.send (hv : Accounted ⟨s, l₁ ++ .sending root (m :: left) :: l₂, sent⟩) :
    Accounted ⟨s, l₁ ++ .sending root left :: l₂, sent ++ [(root, m)]⟩ := by
  refine ⟨fun r uri markers hpending hne => ?_, fun r uri markers hlast hne => ?_⟩
  · exact hv.unsent r uri markers (mem_pending_send.mpr (Or.inr hpending)) hne
  · rw [lastFrom_concat] at hlast
    cases hm : m.markersFor? uri with
    | some ms =>
      -- The markers were pending until now.
      rw [hm, Option.map_some, Option.some_or, Option.some.injEq, Prod.mk.injEq] at hlast
      obtain ⟨rfl, rfl⟩ := hlast
      obtain rfl := ClientMessage.markersFor?_eq_some_iff.mp hm
      exact Or.inl (hv.unsent r uri ms (mem_pending_send.mpr (Or.inl ⟨rfl, rfl⟩)) hne)
    | none =>
      rw [hm, Option.map_none, Option.none_or] at hlast
      rcases hv.shown r uri markers hlast hne with hcounted | hpending
      · exact Or.inl hcounted
      · rcases mem_pending_send.mp hpending with ⟨-, rfl⟩ | hpending
        · simp [ClientMessage.markersFor?] at hm
        · exact Or.inr hpending

end

theorem Accounted.step {v v' : Server} (hv : v.Accounted) (hstep : v.Step v')
    (hexclusive : v'.Exclusive) : v'.Accounted := by
  cases hstep with
  | receive v n => exact hv.congr rfl rfl fun root => by simp [pending]
  | advance hstep =>
    cases hstep with
    | analyse h => exact hv.congr rfl (by simp) fun root => by simp [pending]
    | fail h => exact hv.congr rfl (by simp) fun root => by simp [pending]
    | replace hsends =>
      rw [List.append_nil]
      exact hv.replace hsends hexclusive
    | send => exact hv.send
  | finish => exact hv.congr rfl rfl fun root => by simp [pending]

theorem Reaches.accounted {v : Server} (hv : v.Reaches Exclusive) : v.Accounted := by
  induction hv with
  | start => exact ⟨by simp [pending], by simp [lastFrom, lastSome]⟩
  | step _ hstep hexclusive ih => exact ih.step hstep hexclusive

/-! ## One notification at a time -/

section
variable {allowed : Server → Prop} {s s' : Session} {h h' : Handler}
  {sent out : List (Option String × ClientMessage)} {root : Option String}
  {left : List ClientMessage} {uri : Uri} {u : Update}

theorem Reaches.advance (l₁ l₂ : List Handler) (hv : Reaches allowed ⟨s, l₁ ++ h :: l₂, sent⟩)
    (hstep : h.Step s s' h' out) (hallowed : allowed ⟨s', l₁ ++ h' :: l₂, sent ++ out⟩) :
    Reaches allowed ⟨s', l₁ ++ h' :: l₂, sent ++ out⟩ :=
  hv.step (.advance hstep) hallowed

/-- A handler sends all that is left, and is done. -/
theorem Reaches.flush (l₁ l₂ : List Handler)
    (hv : Reaches allowed ⟨s, l₁ ++ .sending root left :: l₂, sent⟩)
    (hsending : ∀ left sent, allowed ⟨s, l₁ ++ .sending root left :: l₂, sent⟩)
    (hdone : ∀ sent, allowed ⟨s, l₁ ++ l₂, sent⟩) :
    Reaches allowed ⟨s, l₁ ++ l₂, sent ++ left.map (root, ·)⟩ := by
  induction left generalizing sent with
  | nil =>
    rw [List.map_nil, List.append_nil]
    exact hv.step .finish (hdone sent)
  | cons m left ih =>
    rw [List.map_cons, List.append_cons]
    exact ih (hv.advance l₁ l₂ .send (hsending left _))

/-- One handler is sending at most, whatever the others wait for. -/
theorem exclusive_of_waiting (h : Handler) {others : List Handler}
    (hothers : ∀ o ∈ others, o.root? = none) : Exclusive ⟨s, h :: others, sent⟩ := by
  have hnone : others.filterMap Handler.root? = [] := List.filterMap_eq_nil_iff.mpr hothers
  unfold Exclusive
  cases hroot : h.root? <;> simp [hroot, hnone]

theorem exclusive_alone (h : Handler) : Exclusive ⟨s, [h], sent⟩ :=
  exclusive_of_waiting h (by simp)

theorem Reaches.alone (hv : Reaches Exclusive ⟨s, [h], sent⟩) (hstep : h.Step s s' h' out) :
    Reaches Exclusive ⟨s', [h'], sent ++ out⟩ :=
  hv.advance [] [] hstep (exclusive_alone h')

theorem Reaches.flushAlone (hv : Reaches Exclusive ⟨s, [.sending root left], sent⟩) :
    Reaches Exclusive ⟨s, [], sent ++ left.map (root, ·)⟩ :=
  hv.flush [] [] (fun _ _ => exclusive_alone _) fun _ => List.nodup_nil

theorem Reaches.succeed (hv : Reaches Exclusive ⟨s, [.asked uri], sent⟩) {t : FileTree}
    (hcompute : Session.compute t s.options uri = .ok u) :
    Reaches Exclusive
      ⟨(s.replace u).1, [], sent ++ (u.messages (s.replace u).2).map (some u.root, ·)⟩ := by
  have hanalysed := hv.alone (.analyse hcompute)
  have hreplaced := hanalysed.alone (.replace (u.sends_messages _))
  simpa using hreplaced.flushAlone

/-- A run from start to end. -/
theorem Reaches.run (hv : Reaches Exclusive ⟨s, [.asked uri], sent⟩) (t : FileTree) :
    ∃ root, Reaches Exclusive
      ⟨(s.runOn t uri).1, [], sent ++ (s.runOn t uri).2.map (root, ·)⟩ := by
  unfold Session.runOn
  cases hcompute : Session.compute t s.options uri with
  | error e =>
    obtain ⟨kind, text⟩ := e
    have hfailed := hv.alone (.fail hcompute)
    rw [List.append_nil] at hfailed
    exact ⟨none, hfailed.flushAlone⟩
  | ok u => exact ⟨some u.root, hv.succeed hcompute⟩

theorem Reaches.handle (hv : Reaches Exclusive ⟨s, [], sent⟩) (hready : s.phase = .ready)
    (t : FileTree) (n : Notification) :
    ∃ root, Reaches Exclusive
      ⟨(s.handle t n).1, [], sent ++ (s.handle t n).2.map (root, ·)⟩ := by
  have hreceived : Reaches Exclusive ⟨s, [.ofNotification n], sent⟩ :=
    hv.step (.receive _ n) (exclusive_alone _)
  simp only [Session.handle, hready]
  cases n with
  | opened uri | saved uri =>
    simp only [Session.react]
    simp only [Handler.ofNotification] at hreceived
    split
    · rw [if_pos ‹_›] at hreceived
      exact hreceived.run t
    · rw [if_neg ‹_›] at hreceived
      exact ⟨none, hreceived.flushAlone⟩
  | _ => exact ⟨none, hreceived.flushAlone⟩

theorem Reaches.serve (hv : Reaches Exclusive ⟨s, [], sent⟩) (hready : s.phase = .ready)
    (history : List (FileTree × Notification)) :
    ∃ sent', Reaches Exclusive ⟨(s.serve history).1, [], sent'⟩ ∧
      sent'.map (·.2) = sent.map (·.2) ++ (s.serve history).2 := by
  induction history generalizing s sent with
  | nil => exact ⟨sent, hv, by simp [Session.serve]⟩
  | cons e rest ih =>
    obtain ⟨t, n⟩ := e
    obtain ⟨root, hhandled⟩ := hv.handle hready t n
    have hready' : (s.handle t n).1.phase = .ready := (s.handle_frame t n).1.trans hready
    obtain ⟨sent', hserved, hsent'⟩ := ih hhandled hready'
    exact ⟨sent', hserved, by simp [hsent', Session.serve, Function.comp_def]⟩

end

/-- A history of notifications that are handled one at a time is an execution in
which no two runs overlap. -/
theorem reaches_serve {options : Option Json} {s : Session} {answer : Json}
    (hstart : Session.start? {} options = .ok (s, answer))
    (history : List (FileTree × Notification)) :
    ∃ sent, Reaches Exclusive ⟨(s.serve history).1, [], sent⟩ ∧
      sent.map (·.2) = (s.serve history).2 := by
  have hready : s.phase = .ready := by
    obtain ⟨rfl, -⟩ := Prod.mk.inj (Except.ok.inj hstart)
    rfl
  simpa using (Reaches.start hstart).serve hready history

/-! ## Orphans -/

/-- As long as no two runs on one package send their messages at the same time, no
markers are orphaned once all handlers are done. -/
theorem no_orphans {v : Server} (hv : v.Reaches Exclusive) (hdone : v.handlers = []) :
    v.NoOrphans := by
  intro uri root markers hlast hne
  rcases hv.accounted.shown root uri markers hlast hne with hcounted | hpending
  · exact hcounted
  · simp [pending, hdone] at hpending

open Plan (shop orderText findings_shop)
open Session (shopSession libraryUri libraryName orderMarker analysed_shop findings_emptyShop)

theorem start_shop : Session.start? {}
    (some (.object [("parentTypes", .array [.string "Entity"])])) =
      .ok (shopSession, Session.capabilities) := by
  rfl

theorem compute_shop :
    ∃ u, Session.compute (shop orderText) shopSession.options libraryUri = .ok u ∧
      u.root = "/shop" ∧ u.files = [(libraryName, [orderMarker])] := by
  obtain ⟨a, ha, hds⟩ := analysed_shop (by decide +kernel) findings_shop
  refine ⟨_, Session.compute_of_analysed ha, rfl, ?_⟩
  show Update.byFile _ a.diagnostics = _
  rw [hds]
  decide +kernel

theorem compute_emptyShop :
    ∃ u, Session.compute (shop "") shopSession.options libraryUri = .ok u ∧
      u.root = "/shop" ∧ u.files = [] := by
  obtain ⟨a, ha, hds⟩ := analysed_shop (by decide +kernel) findings_emptyShop
  refine ⟨_, Session.compute_of_analysed ha, rfl, ?_⟩
  show Update.byFile _ a.diagnostics = _
  rw [hds]
  rfl

/-- The library is opened while it is clean, and saved with a finding before the first
run is over. Both runs have analysed it when the first one replaces the flagged files;
the second waits until the first has sent its messages. Its markers are shown, and they
are counted. -/
theorem shop_no_orphans :
    ∃ (u u' : Update) (left : List ClientMessage) (v : Server),
      Reaches Exclusive ⟨shopSession, [.analysed u', .analysed u], []⟩ ∧
      Reaches Exclusive
        ⟨(shopSession.replace u').1, [.sending (some "/shop") left, .analysed u], []⟩ ∧
      v.Reaches Exclusive ∧ v.handlers = [] ∧
      lastFrom v.sent libraryName = some (some "/shop", [orderMarker]) ∧
      libraryName ∈ v.session.publishedFor "/shop" := by
  obtain ⟨u, hcompute, hroot, hfiles⟩ := compute_shop
  obtain ⟨u', hcompute', hroot', -⟩ := compute_emptyShop
  have hopened : Reaches Exclusive ⟨shopSession, [.asked libraryUri], []⟩ :=
    (Reaches.start start_shop).step (.receive _ (.opened libraryUri)) (exclusive_alone _)
  have hsaved : Reaches Exclusive ⟨shopSession, [.asked libraryUri, .asked libraryUri], []⟩ :=
    hopened.step (.receive _ (.saved libraryUri)) (exclusive_of_waiting _ (by simp [Handler.root?]))
  have hfirst : Reaches Exclusive ⟨shopSession, [.analysed u', .asked libraryUri], []⟩ :=
    hsaved.advance [] [.asked libraryUri] (.analyse hcompute')
      (exclusive_of_waiting _ (by simp [Handler.root?]))
  have hboth : Reaches Exclusive ⟨shopSession, [.analysed u', .analysed u], []⟩ :=
    hfirst.advance [.analysed u'] [] (.analyse hcompute)
      (exclusive_of_waiting _ (by simp [Handler.root?]))
  have hreplaced : Reaches Exclusive ⟨(shopSession.replace u').1,
      [.sending (some u'.root) (u'.messages (shopSession.replace u').2), .analysed u], []⟩ :=
    hboth.advance [] [.analysed u] (.replace (u'.sends_messages _))
      (exclusive_of_waiting _ (by simp [Handler.root?]))
  have hsent := hreplaced.flush [] [.analysed u]
    (fun _ _ => exclusive_of_waiting _ (by simp [Handler.root?])) fun _ => exclusive_alone _
  have hdone := (hsent.alone (.replace (u.sends_messages _))).flushAlone
  have hlast : ∀ sent stale, lastFrom (sent ++ (u.messages stale).map (some u.root, ·))
      libraryName = some (some "/shop", [orderMarker]) := by
    intro sent stale
    rw [lastFrom, lastSome_append]
    simp [lastSome, Update.messages, hfiles, hroot, ClientMessage.markersFor?]
  rw [hroot'] at hreplaced
  exact ⟨u, u', _, _, hboth, hreplaced, hdone, rfl, hlast _ _,
    no_orphans hdone rfl _ _ _ (hlast _ _) (by simp)⟩

/-- The library is opened and analysed, mended, saved and analysed again. The second
run comes second to replace the flagged files, and clears the library before the first
one sends its markers: they stay, and no file of the package is counted. -/
theorem overlap_orphans :
    ¬ ∀ v : Server, v.Reaches (fun _ => True) → v.handlers = [] → v.NoOrphans := by
  intro hall
  obtain ⟨u, hcompute, hroot, hfiles⟩ := compute_shop
  obtain ⟨u', hcompute', hroot', hfiles'⟩ := compute_emptyShop
  have hstart : Reaches (fun _ => True) ⟨shopSession, [], []⟩ := .start start_shop
  have hopened := hstart.step (.receive _ (.opened libraryUri)) trivial
  have hsaved := hopened.step (.receive _ (.saved libraryUri)) trivial
  have hfirst := hsaved.advance [] [.asked libraryUri] (.analyse hcompute) trivial
  have hsecond := hfirst.advance [.analysed u] [] (.analyse hcompute') trivial
  have hreplaced := hsecond.advance [] [.analysed u'] (.replace (u.sends_messages _)) trivial
  have hreplaced' := hreplaced.advance [.sending (some u.root) (u.messages _)] []
    (.replace (u'.sends_messages _)) trivial
  have hcleared := hreplaced'.flush [.sending (some u.root) (u.messages _)] []
    (fun _ _ => trivial) fun _ => trivial
  have hdone := hcleared.flush [] [] (fun _ _ => trivial) fun _ => trivial
  have hcounted := hall _ hdone rfl libraryName "/shop" [orderMarker]
    (by simp [lastFrom, lastSome, Update.messages, hfiles, hroot, ClientMessage.markersFor?])
    (by simp)
  rw [← hroot', Session.publishedFor_replace, Update.flagged, hfiles'] at hcounted
  exact List.not_mem_nil hcounted

end Server

end EnumFamily
