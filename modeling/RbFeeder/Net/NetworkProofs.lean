import RbFeeder.Net.Log
import RbFeeder.Lib.PointUpdate

/-! What the operations on the network do to the clients and to the counts.

Closing and writing only ever close clients (`Closes`), and keep the difference
between `connections` and the number of clients (`Tallied`), which is not zero in
the middle of `moveNetClient`. -/
namespace RbFeeder.Net
open ModeS (Byte)

namespace Network
variable (env : Environment)

/-- A client after `modesCloseClient`. -/
def closedClient : Client := ⟨-1, none, false⟩

/-! ### Small steps -/

section simps
variable (net : Network) (event : Event) (c : ClientId) (s : Service) (r : Client) (n : Int)
  (data : List Byte)

@[simp] theorem service_record : (net.record event).service c = net.service c := rfl
@[simp] theorem service_setData : (net.setData s data).service c = net.service c := rfl
@[simp] theorem service_addConnections : (net.addConnections s n).service c = net.service c := rfl
@[simp] theorem service_setClient_self : (net.setClient c r).service c = r.service := by
  simp [service, setClient]

end simps

theorem service_setClient_of_ne (net : Network) {c c' : ClientId} (r : Client) (h : c' ≠ c) :
    (net.setClient c r).service c' = net.service c' := by
  simp [service, setClient, h]

/-- `autoset_modeac` sets nothing but the mode. -/
theorem autoset_modeac_eq (net : Network) :
    ∃ mode_ac, net.autoset_modeac env = { net with mode_ac := mode_ac } := by
  unfold autoset_modeac
  split
  · exact ⟨_, rfl⟩
  · exact ⟨net.mode_ac, rfl⟩

theorem modesCloseClient_of_none {net : Network} {c : ClientId} (h : net.service c = none) :
    net.modesCloseClient env c = net := by
  rw [modesCloseClient, h]

theorem modesCloseClient_of_some {net : Network} {c : ClientId} {s : Service}
    (h : net.service c = some s) : ∃ mode_ac, net.modesCloseClient env c =
      { ((net.addConnections s (-1)).setClient c closedClient).record (.detach c s true (net.data s)) with
        mode_ac := mode_ac } := by
  rw [modesCloseClient, h]
  exact autoset_modeac_eq env _

/-- The socket takes all that the next flush of the service writes to the client. -/
def WritesAll (net : Network) (s : Service) (c : ClientId) : Prop :=
  (env.write net.flushes c).nwritten (net.data s).length = (net.data s).length

instance (net : Network) (s : Service) (c : ClientId) : Decidable (net.WritesAll env s c) :=
  inferInstanceAs (Decidable (_ = _))

/-- What `flushWrites` logs before it looks at the result of a write. -/
def wrote (net : Network) (s : Service) (c : ClientId) : Network :=
  net.record (.write c (net.data s) ((env.write net.flushes c).nwritten (net.data s).length))

theorem flushClient_of_ne {net : Network} {s : Service} {c : ClientId} (h : net.service c ≠ some s) :
    flushClient env s net c = net := by
  rw [flushClient, if_neg h]

theorem flushClient_of_all {net : Network} {s : Service} {c : ClientId} (h : net.service c = some s)
    (hall : net.WritesAll env s c) : flushClient env s net c = net.wrote env s c := by
  rw [flushClient, if_pos h]
  exact if_neg (not_not.mpr hall)

theorem flushClient_of_short {net : Network} {s : Service} {c : ClientId}
    (h : net.service c = some s) (hshort : ¬ net.WritesAll env s c) :
    flushClient env s net c = (net.wrote env s c).modesCloseClient env c := by
  rw [flushClient, if_pos h]
  exact if_pos hshort

/-! ### The counts -/

/-- The number of clients of a service. -/
def members (net : Network) (s : Service) : Nat :=
  net.clients.countP fun c => net.service c = some s

/-- Every active client is in the list once, and each count is off by so much. -/
structure Tallied (off : Service → Int) (net : Network) : Prop where
  nodup : net.clients.Nodup
  listed : ∀ c, net.service c ≠ none → c ∈ net.clients
  connections : ∀ s, net.connections s = net.members s + off s

section
variable {env} {net net' : Network} {off : Service → Int}

/-- Only the clients and the counts matter. -/
theorem Tallied.congr (h : Tallied off net) (hclient : net'.client = net.client)
    (hclients : net'.clients = net.clients) (hconnections : net'.connections = net.connections) :
    Tallied off net' := by
  have hservice : net'.service = net.service := by
    funext c
    rw [service, service, hclient]
  refine ⟨hclients ▸ h.nodup, fun c hc => ?_, fun s => ?_⟩
  · rw [hservice] at hc
    exact hclients ▸ h.listed c hc
  · rw [hconnections, h.connections, members, members, hclients, hservice]

/-- What a change of a client's service does to the number of clients. -/
theorem members_setClient (h : Tallied off net) {c : ClientId} (hc : c ∈ net.clients) (r : Client)
    (s : Service) : ((net.setClient c r).members s : Int) =
      net.members s - (if net.service c = some s then 1 else 0) +
        (if r.service = some s then 1 else 0) := by
  have hcount := PointUpdate.countP_update (fun r : Client => decide (r.service = some s)) net.client
    h.nodup hc r
  change (net.setClient c r).members s + (decide (net.service c = some s)).toNat =
    net.members s + (decide (r.service = some s)).toNat at hcount
  by_cases hold : net.service c = some s <;> by_cases hnew : r.service = some s <;>
    simp only [hold, hnew, decide_true, decide_false, Bool.toNat_true, Bool.toNat_false, if_true,
      if_false] at hcount ⊢ <;>
    omega

/-- A client that changes its service changes two counts. -/
theorem Tallied.setClient (h : Tallied off net) {c : ClientId} (hc : c ∈ net.clients) (r : Client) :
    Tallied (fun s => off s + (if net.service c = some s then 1 else 0) -
      (if r.service = some s then 1 else 0)) (net.setClient c r) := by
  refine ⟨h.nodup, fun c' hc' => ?_, fun s => ?_⟩
  · by_cases hsame : c' = c
    · exact hsame ▸ hc
    · rw [service_setClient_of_ne net r hsame] at hc'
      exact h.listed c' hc'
  · rw [members_setClient h hc r s]
    have := h.connections s
    simp only [Network.setClient]
    omega

theorem Tallied.addConnections (h : Tallied off net) (s : Service) (n : Int) :
    Tallied (fun t => off t + (if s = t then n else 0)) (net.addConnections s n) := by
  refine ⟨h.nodup, h.listed, fun t => ?_⟩
  have := h.connections t
  by_cases hst : s = t
  · subst hst
    simp only [Network.addConnections, Function.update_self, if_true]
    change _ = (net.members s : Int) + _
    omega
  · simp only [Network.addConnections, Function.update_of_ne (Ne.symm hst), if_neg hst]
    change _ = (net.members t : Int) + _
    omega

theorem Tallied.of_eq {off' : Service → Int} (h : Tallied off net) (heq : ∀ s, off s = off' s) :
    Tallied off' net := by
  obtain rfl : off = off' := funext heq
  exact h

end

/-! ### Closing clients -/

/-- From `net` to `net'`, clients were closed, all of them clients of services in
`S`. -/
structure Closes (S : Service → Prop) (net net' : Network) : Prop where
  clients : net'.clients = net.clients
  malloc : net'.malloc = net.malloc
  client : ∀ c, net'.client c = net.client c ∨
    (net'.client c = closedClient ∧ ∃ s, S s ∧ net.service c = some s)
  tallied : ∀ off, Tallied off net → Tallied off net'

namespace Closes
variable {S T : Service → Prop} {net net' net'' : Network}

/-- Nothing is closed where only the log, the buffers or the mode change. -/
theorem of_same (hclient : net'.client = net.client) (hclients : net'.clients = net.clients)
    (hmalloc : net'.malloc = net.malloc) (hconnections : net'.connections = net.connections) :
    Closes S net net' :=
  ⟨hclients, hmalloc, fun c => .inl (by rw [hclient]), fun _ h => h.congr hclient hclients hconnections⟩

theorem refl (net : Network) : Closes S net net := of_same rfl rfl rfl rfl

theorem trans (h : Closes S net net') (h' : Closes S net' net'') : Closes S net net'' := by
  refine ⟨h'.clients.trans h.clients, h'.malloc.trans h.malloc, fun c => ?_,
    fun off ht => h'.tallied off (h.tallied off ht)⟩
  rcases h'.client c with heq' | ⟨hclosed', s, hs, hservice'⟩ <;>
    rcases h.client c with heq | ⟨hclosed, t, ht, hservice⟩
  · exact .inl (heq'.trans heq)
  · exact .inr ⟨heq'.trans hclosed, t, ht, hservice⟩
  · refine .inr ⟨hclosed', s, hs, ?_⟩
    rw [← hservice', service, service, heq]
  · exact .inr ⟨hclosed', t, ht, hservice⟩

theorem mono (h : Closes S net net') (hST : ∀ s, S s → T s) : Closes T net net' :=
  ⟨h.clients, h.malloc, fun c => (h.client c).imp_right fun ⟨hclosed, s, hs, hservice⟩ =>
    ⟨hclosed, s, hST s hs, hservice⟩, h.tallied⟩

/-- A client that is still active was not touched. -/
theorem client_eq (h : Closes S net net') {c : ClientId} (hc : net'.service c ≠ none) :
    net'.client c = net.client c := by
  rcases h.client c with heq | ⟨hclosed, -⟩
  · exact heq
  · rw [service, hclosed] at hc
    exact absurd rfl hc

/-- Clients of other services are not touched. -/
theorem client_of_not (h : Closes S net net') {c : ClientId}
    (hc : ∀ s, net.service c = some s → ¬ S s) : net'.client c = net.client c := by
  rcases h.client c with heq | ⟨-, s, hs, hservice⟩
  · exact heq
  · exact absurd hs (hc s hservice)

end Closes

theorem closes_modesCloseClient {net : Network} {c : ClientId} {s : Service} (S : Service → Prop)
    (hs : S s) (h : net.service c = some s) : Closes S net (net.modesCloseClient env c) := by
  obtain ⟨mode_ac, heq⟩ := modesCloseClient_of_some env h
  rw [heq]
  refine ⟨rfl, rfl, fun c' => ?_, fun off ht => ?_⟩
  · by_cases hc : c' = c
    · subst hc
      exact .inr ⟨Function.update_self .., s, hs, h⟩
    · exact .inl (Function.update_of_ne hc ..)
  · have hc : c ∈ net.clients := ht.listed c (by rw [h]; simp)
    have hleft := ht.addConnections s (-1)
    have hset := hleft.setClient (c := c) hc closedClient
    refine (hset.of_eq fun t => ?_).congr rfl rfl rfl
    rw [service_addConnections, h]
    simp only [closedClient, Option.some.injEq, reduceCtorEq, if_false]
    split_ifs <;> omega

theorem closes_flushClient (net : Network) (s : Service) (c : ClientId) :
    Closes (· = s) net (flushClient env s net c) := by
  by_cases h : net.service c = some s
  · by_cases hall : net.WritesAll env s c
    · rw [flushClient_of_all env h hall]
      exact .of_same rfl rfl rfl rfl
    · rw [flushClient_of_short env h hall]
      have hwrote : Closes (· = s) net (net.wrote env s c) := .of_same rfl rfl rfl rfl
      exact hwrote.trans (closes_modesCloseClient env _ rfl h)
  · rw [flushClient_of_ne env h]
    exact .refl net

theorem closes_flushWrites (net : Network) (s : Service) :
    Closes (· = s) net (net.flushWrites env s) := by
  have hloop : Closes (· = s) net (net.clients.foldl (flushClient env s) net) :=
    List.foldlRecOn net.clients (flushClient env s) (Closes.refl net)
      fun net' h c _ => h.trans (closes_flushClient env net' s c)
  exact hloop.trans (.of_same rfl rfl rfl rfl)

theorem closes_flushService (net : Network) (s : Service) :
    Closes (fun t => t = s ∧ s.writer = true) net (net.flushService env s) := by
  unfold flushService
  split
  · next hwriter => exact (closes_flushWrites env net s).mono fun t ht => ⟨ht, hwriter⟩
  · exact .refl net

theorem closes_prepareWrite {net net' : Network} {s : Service} {len : Nat}
    (h : net.prepareWrite env s len = some net') : Closes (· = s) net net' ∧ s.writer = true := by
  unfold prepareWrite at h
  split at h
  · cases h
  · next hwriter =>
    rw [not_or, Bool.not_eq_false] at hwriter
    split at h
    · cases h
    · cases h
      refine ⟨?_, hwriter.1⟩
      split
      · exact (closes_flushWrites env net s).trans (.of_same rfl rfl rfl rfl)
      · exact .of_same rfl rfl rfl rfl

theorem closes_completeWrite (net : Network) (s : Service) (frame : List Byte) :
    Closes (· = s) net (net.completeWrite env s frame) := by
  have hqueued : Closes (· = s) net
      ((net.setData s (net.data s ++ frame)).record (.complete s (net.data s).length frame)) :=
    .of_same rfl rfl rfl rfl
  unfold completeWrite
  dsimp only
  split
  · exact hqueued.trans (closes_flushWrites env _ s)
  · exact hqueued

/-- Writing to the buffers closes clients of services with a writer only. -/
theorem closes_queue (net : Network) (s : Service) (frame : Frame) :
    Closes (·.writer = true) net (net.queue env s frame) := by
  unfold queue
  split
  · exact .refl net
  · next net' h =>
    obtain ⟨hprepare, hwriter⟩ := closes_prepareWrite env h
    have hmono : ∀ t, t = s → t.writer = true := by
      intro t hgiven
      obtain rfl := hgiven
      exact hwriter
    split
    · exact hprepare.mono hmono
    · exact (hprepare.trans (closes_completeWrite env net' s _)).mono hmono

theorem closes_decode (net : Network) : Closes (·.writer = true) net (net.decode env) := by
  have hcount : Closes (·.writer = true) net { net with decoded := net.decoded + 1 } :=
    .of_same rfl rfl rfl rfl
  exact List.foldlRecOn (env.output net.decoded) _ hcount
    fun net' h out _ => h.trans (closes_queue env net' out.1 out.2)

/-! ### What a flush does to one client -/

/-- The client and what its socket took. -/
def view (net : Network) (c : ClientId) : Client × List Byte := (net.client c, received c net.log)

/-- A flush of `s`, seen from one client. -/
def flushed (net : Network) (s : Service) (c : ClientId) (v : Client × List Byte) :
    Client × List Byte :=
  if v.1.service = some s then
    (if net.WritesAll env s c then v.1 else closedClient,
      v.2 ++ (net.data s).take ((env.write net.flushes c).nwritten (net.data s).length).toNat)
  else v

/-- What the loop of `flushWrites` leaves as it is. -/
structure SameBuffers (net net' : Network) : Prop where
  data : net'.data = net.data
  flushes : net'.flushes = net.flushes

theorem flushClient_sameBuffers (net : Network) (s : Service) (c : ClientId) :
    SameBuffers net (flushClient env s net c) := by
  by_cases h : net.service c = some s
  · by_cases hall : net.WritesAll env s c
    · rw [flushClient_of_all env h hall]
      exact ⟨rfl, rfl⟩
    · rw [flushClient_of_short env h hall]
      have hwrote : (net.wrote env s c).service c = some s := h
      obtain ⟨mode_ac, heq⟩ := modesCloseClient_of_some env hwrote
      rw [heq]
      exact ⟨rfl, rfl⟩
  · rw [flushClient_of_ne env h]
    exact ⟨rfl, rfl⟩

theorem view_flushClient_self (net : Network) (s : Service) (c : ClientId) :
    (flushClient env s net c).view c = flushed env net s c (net.view c) := by
  by_cases h : net.service c = some s
  · have hv : (net.view c).1.service = some s := h
    rw [flushed, if_pos hv]
    by_cases hall : net.WritesAll env s c
    · rw [flushClient_of_all env h hall, if_pos hall]
      simp [view, wrote, record]
    · rw [flushClient_of_short env h hall, if_neg hall]
      have hwrote : (net.wrote env s c).service c = some s := h
      obtain ⟨mode_ac, heq⟩ := modesCloseClient_of_some env hwrote
      rw [heq]
      simp [view, wrote, record, setClient, addConnections]
  · have hv : ¬ (net.view c).1.service = some s := h
    rw [flushClient_of_ne env h, flushed, if_neg hv]

theorem view_flushClient_of_ne (net : Network) (s : Service) {c c' : ClientId} (hc : c' ≠ c) :
    (flushClient env s net c).view c' = net.view c' := by
  by_cases h : net.service c = some s
  · by_cases hall : net.WritesAll env s c
    · rw [flushClient_of_all env h hall]
      simp [view, wrote, record, Ne.symm hc]
    · rw [flushClient_of_short env h hall]
      have hwrote : (net.wrote env s c).service c = some s := h
      obtain ⟨mode_ac, heq⟩ := modesCloseClient_of_some env hwrote
      rw [heq]
      simp [view, wrote, record, setClient, addConnections, hc, Ne.symm hc]
  · rw [flushClient_of_ne env h]

/-- A flush, seen from one client: its socket is written to if it is a client of the
service, and then it stays if that took all. -/
theorem view_flushWrites {off : Service → Int} {net : Network} (h : Tallied off net) (s : Service)
    (c : ClientId) : (net.flushWrites env s).view c = flushed env net s c (net.view c) := by
  have hloop : (net.flushWrites env s).view c =
      (net.clients.foldl (flushClient env s) net).view c := rfl
  have hkeeps : ∀ (n : Network) (i : ClientId), SameBuffers net n →
      SameBuffers net (flushClient env s n i) := fun n i hn =>
    have hn' := flushClient_sameBuffers env n s i
    ⟨hn'.data.trans hn.data, hn'.flushes.trans hn.flushes⟩
  have hself : ∀ (n : Network) (i : ClientId), SameBuffers net n →
      (flushClient env s n i).view i = flushed env net s i (n.view i) := by
    intro n i hn
    have hall : n.WritesAll env s i ↔ net.WritesAll env s i := by
      rw [WritesAll, WritesAll, hn.data, hn.flushes]
    rw [view_flushClient_self]
    simp only [flushed, hall, hn.data, hn.flushes]
  have hother : ∀ (n : Network) (i j : ClientId), SameBuffers net n → j ≠ i →
      (flushClient env s n i).view j = n.view j := fun n i j _ hij =>
    view_flushClient_of_ne env n s hij
  rw [hloop, PointUpdate.foldl_pointwise view (flushed env net s) hkeeps hself hother h.nodup
    ⟨rfl, rfl⟩ c]
  split
  · rfl
  · next hc =>
    have hnone : ¬ (net.view c).1.service = some s := fun hsome =>
      hc (h.listed c fun hnone : (net.client c).service = none => by
        rw [view, hnone] at hsome
        cases hsome)
    rw [flushed, if_neg hnone]

/-- The client stays if its socket took all. -/
theorem service_flushWrites {off : Service → Int} {net : Network} (h : Tallied off net)
    {s : Service} {c : ClientId} (hc : net.service c = some s) :
    (net.flushWrites env s).service c = if net.WritesAll env s c then some s else none := by
  have hview := congrArg Prod.fst (view_flushWrites env h s c)
  have hv : (net.view c).1.service = some s := hc
  rw [flushed, if_pos hv] at hview
  change (net.flushWrites env s).client c = _ at hview
  rw [service, hview]
  split
  · exact hc
  · rfl

/-- The client's socket takes all that the flush before a change of its service
writes to it, if there is one. -/
def Survives (net : Network) (c : ClientId) (new_service : Option Service) : Prop :=
  ∀ s, net.service c = some s → some s ≠ new_service → s.writer = true → net.WritesAll env s c

theorem service_flushService {off : Service → Int} {net : Network} (h : Tallied off net)
    {s : Service} {c : ClientId} (hc : net.service c = some s) :
    (net.flushService env s).service c =
      if s.writer = true → net.WritesAll env s c then some s else none := by
  unfold flushService
  by_cases hwriter : s.writer = true
  · simp only [hwriter, if_true, forall_const, service_flushWrites env h hc]
  · simp only [hwriter, if_false, hc, Bool.false_eq_true, false_imp_iff, if_true]

/-! ### Moving a client -/

section
variable {env} {off : Service → Int} {net net' : Network} {c : ClientId}

theorem leaveService_of_none (hc : net.service c = none) : net.leaveService env c = .ok net := by
  rw [leaveService, hc]

/-- A client of a service leaves it after the flush, unless that closes it. -/
theorem leaveService_of_some (h : Tallied off net) {s : Service} (hc : net.service c = some s) :
    net.leaveService env c =
      if s.writer = true → net.WritesAll env s c then
        .ok (((net.flushService env s).addConnections s (-1)).record
          (.detach c s false ((net.flushService env s).data s)))
      else .error .nullService := by
  have hservice := service_flushService env h hc
  by_cases hall : s.writer = true → net.WritesAll env s c
  · rw [if_pos hall] at hservice
    simp only [leaveService, hc, hservice, if_pos hall]
  · rw [if_neg hall] at hservice
    simp only [leaveService, hc, hservice, if_neg hall]

variable (env c) in
/-- **When `moveNetClient` faults**: if the write to the client itself is not
complete in the flush of its old service. -/
theorem moveNetClient_ok_iff (h : Tallied off net) (new_service : Option Service) :
    (∃ net', net.moveNetClient env c new_service = .ok net') ↔ net.Survives env c new_service := by
  unfold moveNetClient
  split
  · next hsame =>
    exact ⟨fun _ s hs hne => absurd (hs.symm.trans hsame) hne, fun _ => ⟨net, rfl⟩⟩
  · next hne =>
    cases hc : net.service c with
    | none =>
      rw [leaveService_of_none hc]
      refine ⟨fun _ s hs => ?_, fun _ => ⟨_, rfl⟩⟩
      rw [hc] at hs
      cases hs
    | some s =>
      rw [leaveService_of_some h hc]
      constructor
      · intro hgiven t ht _ hwriter
        obtain ⟨net', hmove⟩ := hgiven
        obtain rfl : s = t := Option.some.inj (hc.symm.trans ht)
        split at hmove
        · next hall => exact hall hwriter
        · cases hmove
      · intro hall
        rw [if_pos (hall s hc (hc ▸ hne))]
        exact ⟨_, rfl⟩

/-- What `moveNetClient` does: the client has the new service, others may have been
closed, and the counts are right again. -/
structure Moves (c : ClientId) (t : Service) (net net' : Network) : Prop where
  clients : net'.clients = net.clients
  malloc : net'.malloc = net.malloc
  client_self : net'.client c = { net.client c with service := some t }
  client_of_ne : ∀ c', c' ≠ c → net'.client c' = net.client c' ∨ net'.client c' = closedClient
  tallied : ∀ off, Tallied off net → Tallied off net'

variable (env net) in
/-- Entering a service flushes it, and the client then has it. -/
theorem enterService_moves (hc : c ∈ net.clients) {t : Service} (hne : net.service c ≠ some t) :
    let net' := net.enterService env c (some t)
    net'.clients = net.clients ∧ net'.malloc = net.malloc ∧
      net'.client c = { net.client c with service := some t } ∧
      (∀ c', c' ≠ c → net'.client c' = net.client c' ∨ net'.client c' = closedClient) ∧
      ∀ off, Tallied off net →
        Tallied (fun s => off s + (if net.service c = some s then 1 else 0)) net' := by
  have hflush := closes_flushService env net t
  have hsame : ((net.flushService env t).addConnections t 1).client c = net.client c :=
    hflush.client_of_not fun s hs hst => hne (hst.1 ▸ hs)
  refine ⟨hflush.clients, hflush.malloc, ?_, fun c' hc' => ?_, fun off h => ?_⟩
  · simp only [enterService, record, setClient, Function.update_self, hsame]
  · simp only [enterService, record, setClient, Function.update_of_ne hc']
    exact (hflush.client c').imp_right And.left
  · have hc' : c ∈ ((net.flushService env t).addConnections t 1).clients := hflush.clients ▸ hc
    have hcounted := ((hflush.tallied off h).addConnections t 1).setClient hc'
      { net.client c with service := some t }
    have hservice : ((net.flushService env t).addConnections t 1).service c = net.service c := by
      rw [service, service, hsame]
    rw [hservice] at hcounted
    simp only [enterService, hsame]
    refine (hcounted.of_eq fun s => ?_).congr rfl rfl rfl
    simp only [Option.some.injEq]
    omega

/-- A client that changes its service is counted for the new one. -/
theorem moveNetClient_moves (h : Tallied off net) (hc : c ∈ net.clients) {t : Service}
    (hmove : net.moveNetClient env c (some t) = .ok net') : Moves c t net net' := by
  unfold moveNetClient at hmove
  split at hmove
  · next hsame =>
    cases hmove
    refine ⟨rfl, rfl, ?_, fun c' _ => .inl rfl, fun _ ht => ht⟩
    rw [← hsame]
    rfl
  · next hne =>
    cases hs : net.service c with
    | none =>
      rw [leaveService_of_none hs] at hmove
      cases hmove
      obtain ⟨hclients, hmalloc, hself, hothers, htallied⟩ := enterService_moves env net hc hne
      refine ⟨hclients, hmalloc, hself, hothers, fun off' h' => (htallied off' h').of_eq fun s => ?_⟩
      simp [hs]
    | some s =>
      rw [leaveService_of_some h hs] at hmove
      split at hmove
      · next hall =>
        cases hmove
        have hflush := closes_flushService env net s
        have hstays : (net.flushService env s).service c = some s := by
          rw [service_flushService env h hs, if_pos hall]
        have hsame : (net.flushService env s).client c = net.client c :=
          hflush.client_eq (by rw [hstays]; simp)
        have hne' : (net.flushService env s).service c ≠ some t := by rwa [hstays, ← hs]
        obtain ⟨hclients, hmalloc, hself, hothers, htallied⟩ := enterService_moves env
          (((net.flushService env s).addConnections s (-1)).record
            (.detach c s false ((net.flushService env s).data s)))
          (hflush.clients ▸ hc) hne'
        refine ⟨hclients.trans hflush.clients, hmalloc.trans hflush.malloc, ?_, fun c' hc' => ?_,
          fun off' h' => ?_⟩
        · rw [hself]
          change { (net.flushService env s).client c with service := some t } = _
          rw [hsame]
        · rcases hothers c' hc' with heq | hclosed
          · exact (hflush.client c').imp (heq.trans ·) fun hclosed => heq.trans hclosed.1
          · exact .inr hclosed
        · have hleft := (hflush.tallied off' h').addConnections s (-1)
          refine (htallied _ (hleft.congr rfl rfl rfl)).of_eq fun u => ?_
          rw [service_record, service_addConnections, hstays]
          simp only [Option.some.injEq]
          split_ifs <;> omega
      · cases hmove

end

/-! ### Commands -/

/-- The service that a command moves the client to. -/
def commandTarget (p : List Byte) : Option Service :=
  if p.headD 0 ≠ 0x31 then none
  else if (p.drop 1).headD 0 = 0x76 then some .beastCooked
  else if (p.drop 1).headD 0 = 0x56 then some .beastVerbatim
  else none

/-- Only the Mode A/C settings differ. -/
structure SameServices (net net' : Network) : Prop where
  clients : net'.clients = net.clients
  malloc : net'.malloc = net.malloc
  connections : net'.connections = net.connections
  service : net'.service = net.service
  fd : ∀ c, (net'.client c).fd = (net.client c).fd
  data : net'.data = net.data
  log : net'.log = net.log

theorem sameServices_requestModeac (net : Network) (c : ClientId) (requested : Bool) :
    SameServices net (net.requestModeac env c requested) := by
  obtain ⟨mode_ac, heq⟩ := autoset_modeac_eq env
    (net.setClient c { net.client c with modeac_requested := requested })
  rw [requestModeac, heq]
  refine ⟨rfl, rfl, rfl, ?_, fun c' => ?_, rfl, rfl⟩
  · funext c'
    by_cases hc : c' = c <;> simp [service, setClient, hc]
  · by_cases hc : c' = c <;> simp [setClient, hc]

theorem SameServices.tallied {off : Service → Int} {net net' : Network} (h : SameServices net net')
    (ht : Tallied off net) : Tallied off net' := by
  refine ⟨h.clients ▸ ht.nodup, fun c hc => ?_, fun s => ?_⟩
  · rw [h.service] at hc
    exact h.clients ▸ ht.listed c hc
  · rw [h.connections, members, h.clients, h.service]
    exact ht.connections s

/-- **What a command does**: it moves the client, or sets Mode A/C, or nothing. -/
theorem handleBeastCommand_cases (net : Network) (c : ClientId) (p : List Byte) :
    (∃ t, commandTarget p = some t ∧ t.read_handler = some .handleBeastCommand ∧
        t.read_mode = .beastCommand ∧
        net.handleBeastCommand env c p = net.moveNetClient env c (some t)) ∨
      (commandTarget p = none ∧
        ∃ net', net.handleBeastCommand env c p = .ok net' ∧ SameServices net net') := by
  have hsame : SameServices net net := ⟨rfl, rfl, rfl, rfl, fun _ => rfl, rfl, rfl⟩
  unfold handleBeastCommand commandTarget
  split
  · exact .inr ⟨rfl, net, rfl, hsame⟩
  · dsimp only
    by_cases hj : (p.drop 1).headD 0 = 0x6a
    · rw [hj]
      exact .inr ⟨rfl, _, rfl, sameServices_requestModeac env net c false⟩
    by_cases hJ : (p.drop 1).headD 0 = 0x4a
    · rw [hJ]
      exact .inr ⟨rfl, _, rfl, sameServices_requestModeac env net c true⟩
    rw [if_neg hj, if_neg hJ]
    by_cases hv : (p.drop 1).headD 0 = 0x76
    · rw [if_pos hv, if_pos hv]
      exact .inl ⟨_, rfl, rfl, rfl, rfl⟩
    rw [if_neg hv, if_neg hv]
    split
    · exact .inl ⟨_, rfl, rfl, rfl, rfl⟩
    · exact .inr ⟨rfl, net, rfl, hsame⟩

end Network

end RbFeeder.Net
