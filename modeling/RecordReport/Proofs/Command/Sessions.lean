import RecordReport.Command.Session
import RecordReport.Proofs.Disk

/-!
# What logging leaves alone

Logging prints to the standard error, or appends to the log file and to no other. An action that does no
more than that gives a result and is otherwise without effect.
-/

namespace RecordReport.Command

/-- The later session has logged more and done nothing else. -/
structure Session.Logged (s t : Session) : Prop where
  stdout_eq : t.stdout = s.stdout
  logging_eq : t.logging = s.logging
  now_eq : t.now = s.now
  disk : t.disk = s.disk ∨
    ∃ file ∈ s.logging.settings.file, ∃ lines, s.disk.append file lines = .ok t.disk

/-- Whatever is appended to the log file, the path is read alike. -/
def Session.Spares (s : Session) (path : String) : Prop :=
  ∀ file ∈ s.logging.settings.file, ∀ lines disk, s.disk.append file lines = .ok disk →
    disk.read path = s.disk.read path

namespace Session

theorem disk_enter (s : Session) (span : Log.Span) : (s.enter span).disk = s.disk := by
  rw [enter]
  split <;> rfl

theorem stdout_enter (s : Session) (span : Log.Span) : (s.enter span).stdout = s.stdout := by
  rw [enter]
  split <;> rfl

theorem logging_enter (s : Session) (span : Log.Span) : (s.enter span).logging = s.logging := by
  rw [enter]
  split <;> rfl

theorem now_enter (s : Session) (span : Log.Span) : (s.enter span).now = s.now := by
  rw [enter]
  split <;> rfl

namespace Spares

variable {s : Session} {path : String}

theorem of_no_file (h : s.logging.settings.file = none) : s.Spares path := by
  intro file hfile
  rw [h] at hfile
  cases hfile

theorem enter (h : s.Spares path) (span : Log.Span) : (s.enter span).Spares path := by
  intro file hfile lines disk happend
  rw [logging_enter] at hfile
  rw [disk_enter] at happend ⊢
  exact h file hfile lines disk happend

end Spares

namespace Logged

variable {s t u : Session}

theorem refl (s : Session) : s.Logged s := ⟨rfl, rfl, rfl, .inl rfl⟩

theorem trans (hst : s.Logged t) (htu : t.Logged u) : s.Logged u := by
  refine ⟨htu.stdout_eq.trans hst.stdout_eq, htu.logging_eq.trans hst.logging_eq,
    htu.now_eq.trans hst.now_eq, ?_⟩
  rcases hst.disk with hs | ⟨file, hfile, lines, hs⟩
  · rw [← hs, ← hst.logging_eq]
    exact htu.disk
  · rcases htu.disk with ht | ⟨again, hagain, more, ht⟩
    · exact .inr ⟨file, hfile, lines, ht ▸ hs⟩
    · rw [hst.logging_eq] at hagain
      cases Option.mem_unique hfile hagain
      exact .inr ⟨file, hfile, lines ++ more, Disk.append_append hs ht⟩

theorem disk_eq (h : s.Logged t) (hfile : s.logging.settings.file = none) : t.disk = s.disk := by
  rcases h.disk with hdisk | ⟨file, hmem, -⟩
  · exact hdisk
  · rw [hfile] at hmem
    cases hmem

theorem read_eq (h : s.Logged t) {path : String} (hpath : s.Spares path) :
    t.disk.read path = s.disk.read path := by
  rcases h.disk with hdisk | ⟨file, hmem, lines, happend⟩
  · rw [hdisk]
  · exact hpath file hmem lines t.disk happend

/-! ## Events and spans -/

theorem appendLog (s : Session) (line : String) : s.Logged (s.appendLog line) := by
  rw [Session.appendLog]
  cases hfile : s.logging.settings.file with
  | none => exact ⟨rfl, rfl, rfl, .inl rfl⟩
  | some file =>
      dsimp only
      cases happend : s.disk.append file (Text.encode line) with
      | error _ => exact refl s
      | ok disk => exact ⟨rfl, rfl, rfl, .inr ⟨file, hfile, _, happend⟩⟩

theorem log (s : Session) (event : Log.Event) : s.Logged (s.log event) := by
  rw [Session.log]
  split
  · exact appendLog s _
  · exact refl s

theorem foldl_log (s : Session) (events : List Log.Event) : s.Logged (events.foldl Session.log s) := by
  induction events generalizing s with
  | nil => exact refl s
  | cons event events ih => exact (log s event).trans (ih (s.log event))

theorem enter (s : Session) (span : Log.Span) : s.Logged (s.enter span) :=
  ⟨stdout_enter s span, logging_enter s span, now_enter s span, .inl (disk_enter s span)⟩

theorem leave (s : Session) (outer : List Log.Span) : s.Logged (s.leave outer) := by
  rw [Session.leave]
  split
  · obtain ⟨hout, hlogging, hnow, hdisk⟩ := appendLog s
      (Log.line s.logging.settings s.now s.spans ⟨.info, .commands, "close", []⟩)
    exact ⟨hout, hlogging, hnow, hdisk⟩
  · exact ⟨rfl, rfl, rfl, .inl rfl⟩

/-! ## Changes after logging -/

theorem print (h : s.Logged t) (text : String) : (s.print text).Logged (t.print text) := by
  refine ⟨?_, h.logging_eq, h.now_eq, h.disk⟩
  rw [Session.print, Session.print, h.stdout_eq]

theorem withDisk (h : s.Logged t) (disk : Disk) :
    Logged { s with disk := disk } { t with disk := disk } :=
  ⟨h.stdout_eq, h.logging_eq, h.now_eq, .inl rfl⟩

end Logged
end Session

/-! ## Actions that only log -/

namespace Action

variable {α β : Type} {s : Session} {a : Action α} {next : α → Action β}

theorem bind_of_ok {x : α} (h : (a s).1 = .ok x) : (a >>= next) s = next x (a s).2 := by
  rcases hs : a s with ⟨r, t⟩
  rw [hs] at h
  cases h
  simp only [bind, hs]

theorem bind_of_error {failure : Failure} (h : (a s).1 = .error failure) :
    (a >>= next) s = (.error failure, (a s).2) := by
  rcases hs : a s with ⟨r, t⟩
  rw [hs] at h
  cases h
  simp only [bind, hs]

/-- The action has this result, whatever it logs. -/
structure Gives (a : Action α) (s : Session) (r : Except Failure α) : Prop where
  result : (a s).1 = r
  logged : s.Logged (a s).2

theorem gives_pure (x : α) : (pure x : Action α).Gives s (.ok x) := ⟨rfl, .refl s⟩

theorem gives_disk : disk.Gives s (.ok s.disk) := ⟨rfl, .refl s⟩

theorem gives_now : now.Gives s (.ok s.now) := ⟨rfl, .refl s⟩

theorem gives_ofExcept {ε : Type} (failure : ε → Failure) (r : Except ε α) :
    (ofExcept failure r).Gives s (r.mapError failure) := by
  cases r with
  | error _ => exact ⟨rfl, .refl s⟩
  | ok _ => exact ⟨rfl, .refl s⟩

theorem gives_log (event : Log.Event) : (log event).Gives s (.ok ()) := ⟨rfl, .log s event⟩

theorem gives_logAll (events : List Log.Event) : (logAll events).Gives s (.ok ()) :=
  ⟨rfl, .foldl_log s events⟩

namespace Gives

theorem bind_ok {x : α} {r : Except Failure β} (ha : a.Gives s (.ok x))
    (hnext : ∀ t, s.Logged t → (next x).Gives t r) : (a >>= next).Gives s r := by
  obtain ⟨hr, hlater⟩ := hnext _ ha.logged
  have hrun : (a >>= next) s = next x (a s).2 := bind_of_ok ha.result
  exact ⟨by rw [hrun, hr], by rw [hrun]; exact ha.logged.trans hlater⟩

theorem bind_error {failure : Failure} (ha : a.Gives s (.error failure)) :
    (a >>= next).Gives s (.error failure) := by
  have hrun : (a >>= next) s = (.error failure, (a s).2) := bind_of_error ha.result
  exact ⟨by rw [hrun], by rw [hrun]; exact ha.logged⟩

theorem bind {r : Except Failure α} {g : α → Except Failure β} (ha : a.Gives s r)
    (hnext : ∀ x t, r = .ok x → s.Logged t → (next x).Gives t (g x)) :
    (a >>= next).Gives s (r >>= g) := by
  cases r with
  | error failure => exact ha.bind_error
  | ok x => exact ha.bind_ok fun t ht => hnext x t rfl ht

/-- What comes after the result only logs. -/
theorem bind_self {next : α → Action α} {r : Except Failure α} (ha : a.Gives s r)
    (hnext : ∀ x t, s.Logged t → (next x).Gives t (.ok x)) : (a >>= next).Gives s r := by
  have h := ha.bind (g := .ok) fun x t _ ht => hnext x t ht
  rwa [show r >>= Except.ok = r by cases r <;> rfl] at h

theorem within {r : Except Failure α} {span : Log.Span} (ha : a.Gives (s.enter span) r) :
    (Action.within span a).Gives s r :=
  ⟨ha.result, ((Session.Logged.enter s span).trans ha.logged).trans (.leave _ s.spans)⟩

end Gives

/-- What comes after an action only logs. -/
theorem logged_bind {a b : Action Unit} (hb : ∀ t, b.Gives t (.ok ())) (s : Session) :
    ((a >>= fun _ => b) s).1 = (a s).1 ∧ (a s).2.Logged ((a >>= fun _ => b) s).2 := by
  cases hresult : (a s).1 with
  | error failure =>
      rw [bind_of_error hresult]
      exact ⟨rfl, .refl _⟩
  | ok _ =>
      rw [bind_of_ok hresult]
      exact ⟨(hb _).result, (hb _).logged⟩

end Action
end RecordReport.Command
