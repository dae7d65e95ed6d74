import RbFeeder.Airnav.Session

/-! When the session is up.

`airnav_com_inited` is set while other threads may be closing the socket, so it does not
always mean a connection. But whoever closes it clears the flag afterwards, and the monitor
sends the version of the system after it has set the flag, so that it finds out when the
socket went away before. At rest, therefore, and while it sends a ping, the flag means that
there is a connection, that the key was sent on it, that the server accepted, and that the
version was sent (`session_inited`).

The invariant says of each place of the monitor's program what is known there (`Stage`).
The other threads only take away the socket and the flag, and add to the log
(`Interferes`), so they keep what is known. -/
namespace RbFeeder.Airnav
open ModeS (Byte)
open Statement

section Invariants
variable {ι : Type}

/-! ### The greeting -/

/-- The key, the answer of the server, the version. -/
def greeting (c : Nat) : List (Event ι) :=
  (List.range 4).map (.sent .monitor c .authFeeder) ++ [.answered .authOk] ++
    (List.range 4).map (.sent .monitor c .sysinfo)

/-- So much of the greeting is over, if there is still a socket. -/
def Said (s : Shared ι) (n : Nat) : Prop := ∀ c, s.airnav_socket = some c → ((greeting c).take n).Sublist s.log

theorem said_of_none {s : Shared ι} (h : s.airnav_socket = none) (n : Nat) : Said s n := by
  intro c hc
  rw [h] at hc
  cases hc

theorem said_zero (s : Shared ι) : Said s 0 := fun _ _ => List.nil_sublist _

/-- The next part of the greeting. -/
theorem Said.concat {s s' : Shared ι} {n : Nat} (h : Said s n) (hsocket : s'.airnav_socket = s.airnav_socket)
    {e : Event ι} (hlog : s'.log = s.log ++ [e])
    (he : ∀ c, s.airnav_socket = some c → (greeting c)[n]? = some e) : Said s' (n + 1) := by
  intro c hc
  rw [hsocket] at hc
  rw [hlog, List.take_add_one, he c hc]
  exact (h c hc).append (List.Sublist.refl _)

theorem greeting_auth (c : Nat) {part : Nat} (h : part < 4) :
    (greeting c : List (Event ι))[part]? = some (.sent .monitor c .authFeeder part) := by
  interval_cases part <;> rfl

theorem greeting_sysinfo (c : Nat) {part : Nat} (h : part < 4) :
    (greeting c : List (Event ι))[5 + part]? = some (.sent .monitor c .sysinfo part) := by
  interval_cases part <;> rfl

/-! ### The other threads -/

/-- What the other threads do to the variables. -/
structure Interferes (s s' : Shared ι) : Prop where
  socket : s'.airnav_socket = s.airnav_socket ∨ s'.airnav_socket = none
  inited : s'.airnav_com_inited = true → s.airnav_com_inited = true
  expected : s'.expected = s.expected
  log : s'.log = s.log ∧ s'.expected_arrived = s.expected_arrived ∨
    s'.airnav_socket = s.airnav_socket ∧ ∃ e, s'.log = s.log ++ [e] ∧
      (s'.expected_arrived = s.expected_arrived ∨ e = .answered s.expected)

theorem Interferes.said {s s' : Shared ι} (h : Interferes s s') {n : Nat} (hsaid : Said s n) : Said s' n := by
  obtain hsocket | hnone := h.socket
  · intro c hc
    have hbefore := hsaid c (hsocket.symm.trans hc)
    obtain ⟨hlog, -⟩ | ⟨-, e, hlog, -⟩ := h.log
    · rwa [hlog]
    · rw [hlog]
      exact hbefore.trans (List.sublist_append_left _ _)
  · exact said_of_none hnone n

theorem Interferes.uninited {s s' : Shared ι} (h : Interferes s s') (hfalse : s.airnav_com_inited = false) :
    s'.airnav_com_inited = false :=
  Bool.eq_false_iff.mpr fun htrue => Bool.false_ne_true (hfalse.symm.trans (h.inited htrue))

/-- What the other threads may have left to do. -/
inductive Serving : List Statement → Prop
  | done : Serving []
  | save (sk : List Byte) {rest : List Statement} : Serving rest → Serving (save sk :: rest)
  | answer (reply : ServerReply) {rest : List Statement} : Serving rest → Serving (answer reply :: rest)
  | send (type : MessageTypes) (part : Nat) {rest : List Statement} : Serving rest → Serving (send type part :: rest)
  | uninit {rest : List Statement} : Serving rest → Serving (uninit :: rest)
  | forget {rest : List Statement} : Serving rest → Serving (forget :: uninit :: rest)
  | close {rest : List Statement} : Serving rest → Serving (close :: forget :: uninit :: rest)

theorem Serving.disconnect {rest : List Statement} (h : Serving rest) : Serving (net_force_disconnect ++ rest) := .close h

theorem serving_reply (reply : Option ServerReply) : Serving (proccess_ServerReplyPacket reply) := by
  cases reply with
  | none => exact Serving.done.disconnect
  | some reply =>
    have hend : Serving (if reply.status = .authError ∨ reply.status = .authClientMinVersionError ∨
        reply.status = .skCreateError then net_force_disconnect else []) := by
      split
      · exact Serving.done.disconnect
      · exact .done
    unfold proccess_ServerReplyPacket
    dsimp only
    split
    · split
      · exact .save _ (.answer reply hend)
      · exact (Serving.answer reply hend).disconnect
    · exact .answer reply hend

theorem matches_status {s : Shared ι} {reply : ServerReply} (h : s.matches reply = true) : reply.status = s.expected := by
  unfold Shared.matches at h
  split at h
  · split at h
    · exact (of_decide_eq_true h).1
    · exact of_decide_eq_true h
  · exact of_decide_eq_true h

/-- A step of another thread. -/
theorem Serving.take {s : Shared ι} {t : Thread ι} {ok : Bool} {statement : Statement} {rest : List Statement}
    (h : Serving (statement :: rest)) :
    Interferes s (s.take t ok rest statement).1 ∧ Serving (s.take t ok rest statement).2 := by
  have hsame : Interferes s s := ⟨.inl rfl, id, rfl, .inl ⟨rfl, rfl⟩⟩
  cases h with
  | save sk hrest => exact ⟨⟨.inl rfl, id, rfl, .inl ⟨rfl, rfl⟩⟩, hrest⟩
  | answer reply hrest =>
    rw [Shared.take]
    split
    · next hmatches =>
      refine ⟨⟨.inl rfl, id, rfl, .inr ⟨rfl, _, rfl, .inr ?_⟩⟩, hrest⟩
      rw [matches_status hmatches]
    · exact ⟨hsame, hrest⟩
  | send type part hrest =>
    rw [Shared.take]
    split
    · exact ⟨hsame, hrest.disconnect⟩
    · split
      · refine ⟨⟨.inl rfl, id, rfl, .inr ⟨rfl, _, rfl, .inl rfl⟩⟩, ?_⟩
        dsimp only
        split
        · exact .send type (part + 1) hrest
        · exact hrest
      · exact ⟨hsame, hrest.disconnect⟩
  | uninit hrest => exact ⟨⟨.inl rfl, (fun h => by cases h), rfl, .inl ⟨rfl, rfl⟩⟩, hrest⟩
  | forget hrest => exact ⟨⟨.inr rfl, id, rfl, .inl ⟨rfl, rfl⟩⟩, .uninit hrest⟩
  | close hrest =>
    rw [Shared.take]
    split
    · exact ⟨hsame, .forget hrest⟩
    · exact ⟨⟨.inl rfl, id, rfl, .inl ⟨rfl, rfl⟩⟩, .forget hrest⟩

/-! ### The monitor -/

/-- What `sendKey` has left to do when the key is sent. -/
def afterKey : List Statement := [expect .authOk 2, await .authOk, init] ++ net_sendSystemVersion

def afterRequest : List Statement := [expect .skCreateOk 3, await .skCreateOk] ++ giveUp

/-- What is known at each place of the monitor's program. -/
inductive Stage (s : Shared ι) : List Statement → Prop
  | idle : (s.airnav_com_inited = true → Said s 9) → Stage s []
  | ping : (s.airnav_com_inited = true → Said s 9) → Stage s sendPing
  | pinging (part : Nat) : (s.airnav_com_inited = true → Said s 9) → Stage s [send .pingpong part]
  | closeFirst (key : List Byte) : s.airnav_com_inited = false → Stage s (close :: forget :: net_initial_com key)
  | forgetFirst (key : List Byte) : s.airnav_com_inited = false → Stage s (forget :: net_initial_com key)
  | giveUp : s.airnav_com_inited = false → Stage s giveUp
  | close : s.airnav_com_inited = false → Stage s [close, forget]
  | forget : s.airnav_com_inited = false → Stage s [forget]
  | reopen (empty : Bool) : s.airnav_com_inited = false →
      Stage s (.close :: create :: connect :: if empty then sendKeyRequest else sendKey)
  | create (empty : Bool) : s.airnav_com_inited = false →
      Stage s (create :: connect :: if empty then sendKeyRequest else sendKey)
  | connect (empty : Bool) : s.airnav_com_inited = false →
      Stage s (connect :: if empty then sendKeyRequest else sendKey)
  | sendKeyRequest : s.airnav_com_inited = false → Stage s sendKeyRequest
  | requesting (part : Nat) : s.airnav_com_inited = false → Stage s (send .skRequest part :: afterRequest)
  | requested : s.airnav_com_inited = false → Stage s afterRequest
  | awaitKey : s.airnav_com_inited = false → Stage s (await .skCreateOk :: Statement.giveUp)
  | sendKey : s.airnav_com_inited = false → Stage s sendKey
  | sending (part : Nat) : s.airnav_com_inited = false → part < 4 → Said s part →
      Stage s (send .authFeeder part :: afterKey)
  | sent : s.airnav_com_inited = false → Said s 4 → Stage s afterKey
  | await : s.airnav_com_inited = false → s.expected = .authOk → Said s 4 → (s.expected_arrived = true → Said s 5) →
      Stage s (await .authOk :: init :: net_sendSystemVersion)
  | accepted : s.airnav_com_inited = false → Said s 5 → Stage s (init :: net_sendSystemVersion)
  | version : Said s 5 → Stage s net_sendSystemVersion
  | versioning (part : Nat) : part < 4 → Said s (5 + part) → Stage s [send .sysinfo part]
  /-- `net_send_packet` has failed. -/
  | breakClose (empty : Bool) : s.airnav_com_inited = false →
      Stage s (net_force_disconnect ++ if empty then afterRequest else afterKey)
  | breakForget (empty : Bool) : s.airnav_com_inited = false →
      Stage s (.forget :: uninit :: if empty then afterRequest else afterKey)
  | breakUninit (empty : Bool) : s.airnav_com_inited = false → s.airnav_socket = none →
      Stage s (uninit :: if empty then afterRequest else afterKey)
  | endClose : Stage s net_force_disconnect
  | endForget : Stage s [.forget, uninit]
  | endUninit : Stage s [uninit]

theorem stage_login {s : Shared ι} (h : s.airnav_com_inited = false) (key : List Byte) : Stage s (net_initial_com key) := by
  unfold net_initial_com
  split
  · exact .giveUp h
  · by_cases hempty : key.length = 0
    · rw [if_pos hempty]
      exact .reopen true h
    · rw [if_neg hempty]
      exact .reopen false h

/-- The other threads keep what is known. -/
theorem Stage.interfered {s s' : Shared ι} {statements : List Statement} (h : Stage s statements)
    (hstep : Interferes s s') : Stage s' statements := by
  have hfalse := hstep.uninited
  have hsaid {n : Nat} (h : s.airnav_com_inited = true → Said s n) (htrue : s'.airnav_com_inited = true) : Said s' n :=
    hstep.said (h (hstep.inited htrue))
  cases h with
  | idle h => exact .idle (hsaid h)
  | ping h => exact .ping (hsaid h)
  | pinging part h => exact .pinging part (hsaid h)
  | closeFirst key h => exact .closeFirst key (hfalse h)
  | forgetFirst key h => exact .forgetFirst key (hfalse h)
  | giveUp h => exact .giveUp (hfalse h)
  | close h => exact .close (hfalse h)
  | forget h => exact .forget (hfalse h)
  | reopen empty h => exact .reopen empty (hfalse h)
  | create empty h => exact .create empty (hfalse h)
  | connect empty h => exact .connect empty (hfalse h)
  | sendKeyRequest h => exact .sendKeyRequest (hfalse h)
  | requesting part h => exact .requesting part (hfalse h)
  | requested h => exact .requested (hfalse h)
  | awaitKey h => exact .awaitKey (hfalse h)
  | sendKey h => exact .sendKey (hfalse h)
  | sending part h hpart hs => exact .sending part (hfalse h) hpart (hstep.said hs)
  | sent h hs => exact .sent (hfalse h) (hstep.said hs)
  | await h hexpected hs harrived =>
    refine .await (hfalse h) (hstep.expected.trans hexpected) (hstep.said hs) fun harrived' => ?_
    obtain ⟨-, hsame⟩ | ⟨hsocket, e, hlog, hsame | rfl⟩ := hstep.log
    · exact hstep.said (harrived (hsame.symm.trans harrived'))
    · exact hstep.said (harrived (hsame.symm.trans harrived'))
    · exact hs.concat hsocket hlog fun c _ => by rw [hexpected]; rfl
  | accepted h hs => exact .accepted (hfalse h) (hstep.said hs)
  | version hs => exact .version (hstep.said hs)
  | versioning part hpart hs => exact .versioning part hpart (hstep.said hs)
  | breakClose empty h => exact .breakClose empty (hfalse h)
  | breakForget empty h => exact .breakForget empty (hfalse h)
  | breakUninit empty h hnone => exact .breakUninit empty (hfalse h) (hstep.socket.elim (·.trans hnone) id)
  | endClose => exact .endClose
  | endForget => exact .endForget
  | endUninit => exact .endUninit

/-- A `send` of the monitor: it says the next part of the greeting, or it fails. -/
theorem Stage.sendNext {s : Shared ι} {ok : Bool} {type : MessageTypes} {part : Nat} {rest : List Statement}
    (hnext : ∀ c, s.airnav_socket = some c → part < 3 →
      Stage { s with log := s.log ++ [.sent .monitor c type part] } (.send type (part + 1) :: rest))
    (hlast : ∀ c, s.airnav_socket = some c → ¬ part < 3 →
      Stage { s with log := s.log ++ [.sent .monitor c type part] } rest)
    (hfail : Stage s (net_force_disconnect ++ rest)) :
    Stage (s.take .monitor ok rest (.send type part)).1 (s.take .monitor ok rest (.send type part)).2 := by
  rw [Shared.take]
  split
  · exact hfail
  · next c hsocket =>
    split
    · dsimp only
      split
      · next hpart => exact hnext c hsocket hpart
      · next hpart => exact hlast c hsocket hpart
    · exact hfail

/-- A step of the monitor. -/
theorem Stage.take {s : Shared ι} {ok : Bool} {statement : Statement} {rest : List Statement}
    (h : Stage s (statement :: rest)) :
    Stage (s.take .monitor ok rest statement).1 (s.take .monitor ok rest statement).2 := by
  have hclose {rest : List Statement} (hrest : ∀ s' : Shared ι, s'.airnav_com_inited = s.airnav_com_inited → Stage s' rest) :
      Stage (s.take .monitor ok rest .close).1 (s.take .monitor ok rest .close).2 := by
    rw [Shared.take]
    split
    · exact hrest s rfl
    · exact hrest _ rfl
  cases h with
  | ping h =>
    rw [Shared.take]
    split
    · exact .idle h
    · exact .pinging 0 h
  | pinging part h =>
    have hlonger (c : Nat) (htrue : s.airnav_com_inited = true) :
        Said { s with log := s.log ++ [.sent .monitor c .pingpong part] } 9 := fun c' hc' =>
      (h htrue c' hc').trans (List.sublist_append_left _ _)
    exact .sendNext (fun c _ _ => .pinging (part + 1) (hlonger c)) (fun c _ _ => .idle (hlonger c)) .endClose
  | closeFirst key h => exact hclose fun s' hs' => .forgetFirst key (hs'.trans h)
  | forgetFirst key h => exact stage_login (s := { s with airnav_socket := none }) h key
  | giveUp h => exact .close rfl
  | close h => exact hclose fun s' hs' => .forget (hs'.trans h)
  | forget h => exact .idle fun htrue => absurd (h.symm.trans htrue) Bool.false_ne_true
  | reopen empty h => exact hclose fun s' hs' => .create empty (hs'.trans h)
  | create empty h =>
    rw [Shared.take]
    split
    · exact .connect empty h
    · exact .connect empty h
  | connect empty h =>
    rw [Shared.take]
    split
    · exact .close h
    · split
      · cases empty with
        | true => exact .sendKeyRequest h
        | false => exact .sendKey h
      · exact .close h
  | sendKeyRequest h =>
    rw [Shared.take]
    split
    · exact .giveUp h
    · exact .requesting 0 h
  | requesting part h =>
    exact .sendNext (fun c _ _ => .requesting (part + 1) h) (fun c _ _ => .requested h) (.breakClose true h)
  | requested h =>
    rw [Shared.take]
    split
    · exact .giveUp h
    · exact .awaitKey h
  | awaitKey h =>
    rw [Shared.take]
    split
    · exact .giveUp h
    · split
      · exact .awaitKey h
      · exact .giveUp h
  | sendKey h =>
    rw [Shared.take]
    split
    · exact .giveUp h
    · exact .sending 0 h (by decide) (said_zero s)
  | sending part h hpart hs =>
    have hsaid (c : Nat) (hc : s.airnav_socket = some c) :
        Said { s with log := s.log ++ [.sent .monitor c .authFeeder part] } (part + 1) :=
      hs.concat rfl rfl fun c' hc' => by
        obtain rfl := Option.some.inj (hc.symm.trans hc')
        exact greeting_auth c hpart
    refine .sendNext (fun c hc hlt => .sending (part + 1) h (by omega) (hsaid c hc)) (fun c hc hlast => ?_)
      (.breakClose false h)
    obtain rfl : part = 3 := by omega
    exact .sent h (hsaid c hc)
  | sent h hs =>
    rw [Shared.take]
    split
    · exact .giveUp h
    · exact .await h rfl hs fun harrived => by cases harrived
  | await h hexpected hs harrived =>
    rw [Shared.take]
    split
    · next htrue => exact .accepted h (harrived htrue)
    · split
      · exact .await h hexpected hs harrived
      · exact .giveUp h
  | accepted h hs => exact .version hs
  | version hs =>
    rw [Shared.take]
    split
    · exact .versioning 0 (by decide) hs
    · next hfalse => exact .idle fun htrue => absurd htrue hfalse
  | versioning part hpart hs =>
    have hsaid (c : Nat) (hc : s.airnav_socket = some c) :
        Said { s with log := s.log ++ [.sent .monitor c .sysinfo part] } (5 + part + 1) :=
      hs.concat rfl rfl fun c' hc' => by
        obtain rfl := Option.some.inj (hc.symm.trans hc')
        exact greeting_sysinfo c hpart
    refine .sendNext (fun c hc hlt => .versioning (part + 1) (by omega) (hsaid c hc)) (fun c hc hlast => ?_) .endClose
    obtain rfl : part = 3 := by omega
    exact .idle fun _ => hsaid c hc
  | breakClose empty h => exact hclose fun s' hs' => .breakForget empty (hs'.trans h)
  | breakForget empty h => exact .breakUninit empty h rfl
  | breakUninit empty h hnone =>
    cases empty with
    | true => exact .requested rfl
    | false => exact .sent rfl (said_of_none hnone 4)
  | endClose => exact hclose fun s' _ => .endForget
  | endForget => exact .endUninit
  | endUninit => exact .idle fun htrue => by cases htrue

/-! ### Who closes the socket clears the flag -/

/-- The monitor finds out that the socket is gone, or is clearing the flag. -/
def Finds (statements : List Statement) : Prop :=
  statements = net_sendSystemVersion ∨ (∃ part, statements = [send .sysinfo part]) ∨
    statements = net_force_disconnect ∨ statements = [forget, uninit]

/-- A place at which the flag may be set, and what is left there. -/
theorem Stage.inited {s : Shared ι} {statement : Statement} {rest : List Statement} (h : Stage s (statement :: rest))
    (htrue : s.airnav_com_inited = true) :
    statement = uninit ∨ statement = .forget ∧ rest = [uninit] ∨ statement = .ping ∨
      (∃ part, statement = .send .pingpong part) ∨ Finds (statement :: rest) := by
  have hfalse {p : Prop} (h : s.airnav_com_inited = false) : p :=
    absurd (h.symm.trans htrue) Bool.false_ne_true
  cases h with
  | ping h => exact .inr (.inr (.inl rfl))
  | pinging part h => exact .inr (.inr (.inr (.inl ⟨part, rfl⟩)))
  | version hs => exact .inr (.inr (.inr (.inr (.inl rfl))))
  | versioning part hpart hs => exact .inr (.inr (.inr (.inr (.inr (.inl ⟨part, rfl⟩)))))
  | endClose => exact .inr (.inr (.inr (.inr (.inr (.inr (.inl rfl))))))
  | endForget => exact .inr (.inl ⟨rfl, rfl⟩)
  | endUninit => exact .inl rfl
  | closeFirst _ h => exact hfalse h
  | forgetFirst _ h => exact hfalse h
  | giveUp h => exact hfalse h
  | close h => exact hfalse h
  | forget h => exact hfalse h
  | reopen _ h => exact hfalse h
  | create _ h => exact hfalse h
  | connect _ h => exact hfalse h
  | sendKeyRequest h => exact hfalse h
  | requesting _ h => exact hfalse h
  | requested h => exact hfalse h
  | awaitKey h => exact hfalse h
  | sendKey h => exact hfalse h
  | sending _ h => exact hfalse h
  | sent h => exact hfalse h
  | await h => exact hfalse h
  | accepted h => exact hfalse h
  | breakClose _ h => exact hfalse h
  | breakForget _ h => exact hfalse h
  | breakUninit _ h => exact hfalse h

theorem Stage.close_head {s : Shared ι} {rest : List Statement} (h : Stage s (.close :: rest)) :
    rest.head? = some .forget ∨ rest.head? = some .create := by
  cases h with
  | closeFirst => exact .inl rfl
  | close => exact .inl rfl
  | reopen => exact .inr rfl
  | breakClose => exact .inl rfl
  | endClose => exact .inl rfl

theorem Stage.create_head {s : Shared ι} {rest : List Statement} (h : Stage s (.create :: rest)) :
    rest.head? = some .connect ∧ s.airnav_com_inited = false := by
  cases h with
  | create empty h => exact ⟨rfl, h⟩

theorem Stage.init_rest {s : Shared ι} {rest : List Statement} (h : Stage s (init :: rest)) :
    rest = net_sendSystemVersion := by
  cases h with
  | accepted => rfl

/-- What is left of the flag and the socket. -/
theorem take_kept {s : Shared ι} {t : Thread ι} {ok : Bool} {statement : Statement} {rest : List Statement}
    (huninit : statement ≠ uninit) (hforget : statement ≠ forget) (hinit : statement ≠ init)
    (hcreate : statement ≠ create) :
    (s.take t ok rest statement).1.airnav_socket = s.airnav_socket ∧
      (s.take t ok rest statement).1.airnav_com_inited = s.airnav_com_inited := by
  cases statement with
  | uninit => exact absurd rfl huninit
  | forget => exact absurd rfl hforget
  | init => exact absurd rfl hinit
  | create => exact absurd rfl hcreate
  | close => rw [Shared.take]; split <;> exact ⟨rfl, rfl⟩
  | connect =>
    rw [Shared.take]
    split
    · exact ⟨rfl, rfl⟩
    · split <;> exact ⟨rfl, rfl⟩
  | ready serial => rw [Shared.take]; split <;> exact ⟨rfl, rfl⟩
  | send type part =>
    rw [Shared.take]
    split
    · exact ⟨rfl, rfl⟩
    · split <;> exact ⟨rfl, rfl⟩
  | expect cmd id => rw [Shared.take]; split <;> exact ⟨rfl, rfl⟩
  | await cmd =>
    rw [Shared.take]
    split
    · exact ⟨rfl, rfl⟩
    · split <;> exact ⟨rfl, rfl⟩
  | version => rw [Shared.take]; split <;> exact ⟨rfl, rfl⟩
  | ping => rw [Shared.take]; split <;> exact ⟨rfl, rfl⟩
  | save sk => exact ⟨rfl, rfl⟩
  | answer reply => rw [Shared.take]; split <;> exact ⟨rfl, rfl⟩

/-- What is left of the sockets. -/
theorem take_status {s : Shared ι} {t : Thread ι} {ok : Bool} {statement : Statement} {rest : List Statement}
    (hclose : statement ≠ close) (hcreate : statement ≠ create) (hconnect : statement ≠ connect) :
    (s.take t ok rest statement).1.status = s.status := by
  cases statement with
  | close => exact absurd rfl hclose
  | create => exact absurd rfl hcreate
  | connect => exact absurd rfl hconnect
  | uninit => rfl
  | forget => rfl
  | init => rfl
  | ready serial => rw [Shared.take]; split <;> rfl
  | send type part =>
    rw [Shared.take]
    split
    · rfl
    · split <;> rfl
  | expect cmd id => rw [Shared.take]; split <;> rfl
  | await cmd =>
    rw [Shared.take]
    split
    · rfl
    · split <;> rfl
  | version => rw [Shared.take]; split <;> rfl
  | ping => rw [Shared.take]; split <;> rfl
  | save sk => rfl
  | answer reply => rw [Shared.take]; split <;> rfl

end Invariants

/-! ### The invariant -/

section Runs
variable {ι : Type}

/-- Some thread does this next. -/
def Session.Next (s : Session ι) (statement : Statement) : Prop := ∃ t, (s.program t).head? = some statement

/-- A socket is connected, or it is about to be, or it is about to be forgotten. -/
def Session.Live (s : Session ι) (c : Nat) : Prop :=
  s.shared.status c = .connected ∨
    (s.shared.status c = .created ∧
      ((s.program .monitor).head? = some .connect ∨ (s.program .monitor).head? = some .close)) ∨
    (s.shared.status c = .closed ∧ (s.Next .forget ∨ (s.program .monitor).head? = some .create))

/-- The invariant: what the monitor knows, that the flag is cleared when the socket is gone, and what becomes of the
socket. -/
structure Session.Sound (s : Session ι) : Prop where
  stage : Stage s.shared (s.program .monitor)
  serving : ∀ t, t ≠ .monitor → Serving (s.program t)
  owed : s.shared.airnav_com_inited = true → s.shared.airnav_socket = none →
    s.Next .uninit ∨ Finds (s.program .monitor)
  live : ∀ c, s.shared.airnav_socket = some c → s.Live c

theorem finds_cons {statements : List Statement} (h : Finds statements) :
    ∃ statement rest, statements = statement :: rest := by
  obtain rfl | ⟨part, rfl⟩ | rfl | rfl := h
  · exact ⟨_, _, rfl⟩
  · exact ⟨_, _, rfl⟩
  · exact ⟨_, _, rfl⟩
  · exact ⟨_, _, rfl⟩

variable [DecidableEq ι]

/-- The session after a step of a thread. -/
def Session.taken (s : Session ι) (t : Thread ι) (ok : Bool) (statement : Statement) (rest : List Statement) : Session ι where
  shared := (s.shared.take t ok rest statement).1
  program := Function.update s.program t (s.shared.take t ok rest statement).2

theorem Session.Next.other {s : Session ι} {next : Statement} (h : s.Next next) {t : Thread ι}
    (hother : (s.program t).head? ≠ some next) (shared : Shared ι) (statements : List Statement) :
    (Session.mk shared (Function.update s.program t statements)).Next next := by
  obtain ⟨u, hu⟩ := h
  have hne : u ≠ t := by
    rintro rfl
    exact hother hu
  refine ⟨u, ?_⟩
  show (Function.update s.program t statements u).head? = some next
  rwa [Function.update_of_ne hne]

theorem Session.Sound.owed_taken {s : Session ι} (h : s.Sound) {t : Thread ι} {statement : Statement}
    {rest : List Statement} (ht : s.program t = statement :: rest) (ok : Bool)
    (htrue : (s.taken t ok statement rest).shared.airnav_com_inited = true)
    (hnone : (s.taken t ok statement rest).shared.airnav_socket = none) :
    (s.taken t ok statement rest).Next .uninit ∨ Finds ((s.taken t ok statement rest).program .monitor) := by
  have hself : (s.taken t ok statement rest).program t = (s.shared.take t ok rest statement).2 :=
    Function.update_self ..
  by_cases huninit : statement = .uninit
  · subst huninit
    cases htrue
  by_cases hcreate : statement = .create
  · subst hcreate
    have hflag : (s.taken t ok .create rest).shared.airnav_com_inited = s.shared.airnav_com_inited := by
      unfold Session.taken
      rw [Shared.take]
      split <;> rfl
    by_cases hmonitor : t = .monitor
    · subst hmonitor
      have hstage := h.stage
      rw [ht] at hstage
      exact absurd (hflag.symm.trans htrue) (Bool.eq_false_iff.mp hstage.create_head.2)
    · have hserving := h.serving t hmonitor
      rw [ht] at hserving
      cases hserving
  by_cases hinit : statement = .init
  · subst hinit
    by_cases hmonitor : t = .monitor
    · subst hmonitor
      have hstage := h.stage
      rw [ht] at hstage
      rw [hself]
      exact .inr (.inl hstage.init_rest)
    · have hserving := h.serving t hmonitor
      rw [ht] at hserving
      cases hserving
  by_cases hforget : statement = .forget
  · subst hforget
    refine .inl ⟨t, ?_⟩
    rw [hself]
    by_cases hmonitor : t = .monitor
    · subst hmonitor
      have hstage := h.stage
      rw [ht] at hstage
      obtain hc | ⟨-, rfl⟩ | hc | ⟨_, hc⟩ | hc | ⟨_, hc⟩ | hc | hc := hstage.inited htrue
      · cases hc
      · rfl
      · cases hc
      · cases hc
      · cases hc
      · cases hc
      · cases hc
      · cases hc
        rfl
    · have hserving := h.serving t hmonitor
      rw [ht] at hserving
      cases hserving with
      | forget hrest => rfl
  obtain ⟨hsocket, hflag⟩ := take_kept (s := s.shared) (t := t) huninit hforget hinit hcreate
  have hnone' : s.shared.airnav_socket = none := hsocket.symm.trans hnone
  have htrue' : s.shared.airnav_com_inited = true := hflag.symm.trans htrue
  obtain hnext | hfinds := h.owed htrue' hnone'
  · refine .inl (hnext.other ?_ _ _)
    rw [ht]
    exact fun heq => huninit (Option.some.inj heq)
  · by_cases hmonitor : t = .monitor
    · subst hmonitor
      rw [hself]
      rw [ht] at hfinds
      refine .inr ?_
      obtain hc | ⟨part, hc⟩ | hc | hc := hfinds
      · cases hc
        rw [Shared.take, if_pos htrue']
        exact .inr (.inl ⟨0, rfl⟩)
      · cases hc
        simp only [Shared.take, hnone']
        exact .inr (.inr (.inl rfl))
      · cases hc
        simp only [Shared.take, hnone']
        exact .inr (.inr (.inr rfl))
      · cases hc
        exact absurd rfl hforget
    · rw [show (s.taken t ok statement rest).program .monitor = s.program .monitor from
        Function.update_of_ne (Ne.symm hmonitor) ..]
      exact .inr hfinds

/-- Statements that leave the socket as it is. -/
theorem Session.Live.kept {s : Session ι} {c : Nat} (h : s.Live c) {t : Thread ι} {statement : Statement}
    {rest : List Statement} (ht : s.program t = statement :: rest) (hclose : statement ≠ close)
    (hcreate : statement ≠ create) (hconnect : statement ≠ connect) (hforget : statement ≠ forget) {shared : Shared ι}
    (hstatus : shared.status c = s.shared.status c) (next : List Statement) :
    (Session.mk shared (Function.update s.program t next)).Live c := by
  have hmonitor {head : Statement} (hne : statement ≠ head) (hhead : (s.program .monitor).head? = some head) :
      (Function.update s.program t next .monitor).head? = some head := by
    by_cases heq : t = .monitor
    · subst heq
      rw [ht] at hhead
      exact absurd (Option.some.inj hhead) hne
    · rwa [Function.update_of_ne (Ne.symm heq)]
  have hkept {p : Status → Prop} (hp : p (s.shared.status c)) : p (shared.status c) := hstatus ▸ hp
  obtain hup | ⟨hcreated, hhead⟩ | ⟨hclosed, hnext | hhead⟩ := h
  · exact .inl (hstatus.trans hup)
  · exact .inr (.inl ⟨hstatus.trans hcreated, hhead.imp (hmonitor hconnect) (hmonitor hclose)⟩)
  · refine .inr (.inr ⟨hstatus.trans hclosed, .inl (hnext.other ?_ _ _)⟩)
    rw [ht]
    exact fun heq => hforget (Option.some.inj heq)
  · exact .inr (.inr ⟨hstatus.trans hclosed, .inr (hmonitor hcreate hhead)⟩)

theorem Session.Sound.live_taken {s : Session ι} (h : s.Sound) {t : Thread ι} {statement : Statement}
    {rest : List Statement} (ht : s.program t = statement :: rest) (ok : Bool) {c : Nat}
    (hc : (s.taken t ok statement rest).shared.airnav_socket = some c) : (s.taken t ok statement rest).Live c := by
  have hself (next : List Statement) : Function.update s.program t next t = next := Function.update_self ..
  have hconnects (hhead : statement = .connect ∨ statement = .create) (hne : t ≠ .monitor) :
      False := by
    have hserving := h.serving t hne
    rw [ht] at hserving
    obtain rfl | rfl := hhead
    · cases hserving
    · cases hserving
  by_cases hforget : statement = .forget
  · subst hforget
    cases hc
  by_cases hclose : statement = .close
  · subst hclose
    have hnext : (s.taken t ok .close rest).program = Function.update s.program t rest := by
      unfold Session.taken
      rw [Shared.take]
      split <;> rfl
    cases hsocket : s.shared.airnav_socket with
    | none =>
      simp only [Session.taken, Shared.take, hsocket] at hc
      cases hc
    | some c' =>
      have hshared : (s.taken t ok .close rest).shared = s.shared.setStatus c' .closed := by
        simp only [Session.taken, Shared.take, hsocket]
      rw [hshared] at hc
      obtain rfl : c' = c := Option.some.inj (hsocket.symm.trans hc)
      refine .inr (.inr ⟨?_, ?_⟩)
      · rw [hshared]
        exact if_pos rfl
      · by_cases hmonitor : t = .monitor
        · subst hmonitor
          have hstage := h.stage
          rw [ht] at hstage
          refine hstage.close_head.imp (fun hhead => ⟨.monitor, ?_⟩) fun hhead => ?_
          · rwa [hnext, hself]
          · rwa [hnext, hself]
        · have hserving := h.serving t hmonitor
          rw [ht] at hserving
          refine .inl ⟨t, ?_⟩
          rw [hnext, hself]
          cases hserving with
          | close hrest => rfl
  by_cases hcreate : statement = .create
  · subst hcreate
    obtain rfl : t = .monitor := by_contra fun hne => hconnects (.inr rfl) hne
    have hstage := h.stage
    rw [ht] at hstage
    cases ok with
    | false => cases hc
    | true =>
      obtain rfl : s.shared.created = c := Option.some.inj hc
      refine .inr (.inl ⟨if_pos rfl, .inl ?_⟩)
      exact (congrArg List.head? (hself rest)).trans hstage.create_head.1
  by_cases hconnect : statement = .connect
  · subst hconnect
    obtain rfl : t = .monitor := by_contra fun hne => hconnects (.inl rfl) hne
    have hsocket : s.shared.airnav_socket = some c := by
      rw [← hc]
      exact (take_kept (by decide) (by decide) (by decide) (by decide)).1.symm
    by_cases hok : ok ∧ s.shared.status c = .created
    · refine .inl ?_
      simp only [Session.taken, Shared.take, hsocket, if_pos hok]
      exact if_pos rfl
    · have htaken : s.taken .monitor ok .connect rest =
          ⟨s.shared, Function.update s.program .monitor [.close, .forget]⟩ := by
        simp only [Session.taken, Shared.take, hsocket, if_neg hok]
      rw [htaken]
      obtain hup | ⟨hcreated, -⟩ | ⟨hclosed, hnext | hhead⟩ := h.live c hsocket
      · exact .inl hup
      · exact .inr (.inl ⟨hcreated, .inr (congrArg List.head? (hself _))⟩)
      · refine .inr (.inr ⟨hclosed, .inl (hnext.other ?_ _ _)⟩)
        rw [ht]
        exact fun heq => by cases heq
      · rw [ht] at hhead
        cases hhead
  have hstatus : (s.shared.take t ok rest statement).1.status = s.shared.status :=
    take_status hclose hcreate hconnect
  have hsocket : s.shared.airnav_socket = some c := by
    rw [← hc]
    by_cases hinit : statement = .init
    · subst hinit
      rfl
    by_cases huninit : statement = .uninit
    · subst huninit
      rfl
    exact (take_kept huninit hforget hinit hcreate).1.symm
  exact (h.live c hsocket).kept ht hclose hcreate hconnect hforget (congrFun hstatus c) _

/-- A step of a thread keeps the invariant. -/
theorem Session.Sound.taken {s : Session ι} (h : s.Sound) {t : Thread ι} {statement : Statement}
    {rest : List Statement} (ht : s.program t = statement :: rest) (ok : Bool) :
    (s.taken t ok statement rest).Sound := by
  refine ⟨?_, fun u hu => ?_, h.owed_taken ht ok, fun c => h.live_taken ht ok⟩
  · by_cases hmonitor : t = .monitor
    · subst hmonitor
      have hstage := h.stage
      rw [ht] at hstage
      show Stage _ (Function.update s.program .monitor _ .monitor)
      rw [Function.update_self]
      exact hstage.take
    · have hserving := h.serving t hmonitor
      rw [ht] at hserving
      show Stage _ (Function.update s.program t _ .monitor)
      rw [Function.update_of_ne (Ne.symm hmonitor)]
      exact h.stage.interfered hserving.take.1
  · show Serving (Function.update s.program t _ u)
    by_cases hsame : u = t
    · subst hsame
      have hserving := h.serving u hu
      rw [ht] at hserving
      rw [Function.update_self]
      exact (hserving.take (s := s.shared)).2
    · rw [Function.update_of_ne hsame]
      exact h.serving u hu

/-- A thread that is done starts something. -/
theorem Session.Sound.start {s : Session ι} (h : s.Sound) {t : Thread ι} {statements : List Statement}
    (hstage : t = .monitor → Stage s.shared [] → Stage s.shared statements)
    (hserving : t ≠ .monitor → Serving statements) : (s.start t statements).Sound := by
  unfold Session.start
  split
  · next hdone =>
    have hhead (statement : Statement) : (s.program t).head? ≠ some statement := by
      rw [hdone]
      exact fun heq => by cases heq
    have hmonitor {statement : Statement} (hnext : (s.program .monitor).head? = some statement) :
        (Function.update s.program t statements .monitor).head? = some statement := by
      have hne : Thread.monitor ≠ t := by
        rintro rfl
        exact hhead statement hnext
      rwa [Function.update_of_ne hne]
    refine ⟨?_, fun u hu => ?_, fun htrue hnone => ?_, fun c hc => ?_⟩
    · show Stage s.shared (Function.update s.program t statements .monitor)
      by_cases heq : t = .monitor
      · subst heq
        rw [Function.update_self]
        exact hstage rfl (hdone ▸ h.stage)
      · rw [Function.update_of_ne (Ne.symm heq)]
        exact h.stage
    · show Serving (Function.update s.program t statements u)
      by_cases heq : u = t
      · subst heq
        rw [Function.update_self]
        exact hserving hu
      · rw [Function.update_of_ne heq]
        exact h.serving u hu
    · obtain hnext | hfinds := h.owed htrue hnone
      · exact .inl (hnext.other (hhead _) _ _)
      · obtain ⟨statement, rest, hcons⟩ := finds_cons hfinds
        have hne : Thread.monitor ≠ t := by
          rintro rfl
          rw [hdone] at hcons
          cases hcons
        refine .inr ?_
        show Finds (Function.update s.program t statements .monitor)
        rwa [Function.update_of_ne hne]
    · obtain hup | ⟨hcreated, hconnect⟩ | ⟨hclosed, hnext | hcreate⟩ := h.live c hc
      · exact .inl hup
      · exact .inr (.inl ⟨hcreated, hconnect.imp hmonitor hmonitor⟩)
      · exact .inr (.inr ⟨hclosed, .inl (hnext.other (hhead _) _ _)⟩)
      · exact .inr (.inr ⟨hclosed, .inr (hmonitor hcreate)⟩)
  · exact h

theorem Session.Sound.step {s : Session ι} (h : s.Sound) (a : Action ι) : (s.step a).Sound := by
  cases a with
  | take t ok =>
    rw [Session.step]
    split
    · exact h
    · next statement rest ht => exact h.taken ht ok
  | monitor =>
    refine h.start (fun _ hidle => ?_) fun hne => absurd rfl hne
    split
    · cases hidle with
      | idle hsaid => exact .ping hsaid
    · next hfalse => exact .closeFirst _ (Bool.eq_false_iff.mpr hfalse)
  | receive reply => exact h.start (fun hmonitor => by cases hmonitor) fun _ => serving_reply reply
  | data i type =>
    rw [Session.step]
    split
    · exact h.start (fun hmonitor => by cases hmonitor) fun _ => .send type 0 .done
    · exact h

/-- The monitor has nothing to do, or is about to ping the server, or is at one of the four calls of `send` for that. -/
def Resting (statements : List Statement) : Prop :=
  statements = [] ∨ statements = sendPing ∨ ∃ part, statements = [send .pingpong part]

theorem Resting.head {statements : List Statement} (h : Resting statements) {statement : Statement}
    (hhead : statements.head? = some statement) : statement = .ping ∨ ∃ part, statement = .send .pingpong part := by
  obtain rfl | rfl | ⟨part, rfl⟩ := h
  · cases hhead
  · exact .inl (Option.some.inj hhead).symm
  · exact .inr ⟨part, (Option.some.inj hhead).symm⟩

omit [DecidableEq ι] in
theorem Stage.said {s : Shared ι} {statements : List Statement} (h : Stage s statements) (hrest : Resting statements)
    (htrue : s.airnav_com_inited = true) : Said s 9 := by
  obtain rfl | rfl | ⟨part, rfl⟩ := hrest
  · cases h with
    | idle h => exact h htrue
  · cases h with
    | ping h => exact h htrue
  · cases h with
    | pinging part h => exact h htrue

end Runs

/-! ### A login -/

end RbFeeder.Airnav
