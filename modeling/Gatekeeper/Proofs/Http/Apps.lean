import Gatekeeper.Proofs.Http.Login

/-!
# Apps of one process

The routes look for their store in one place of the process, and to make an app is to put
its store there.  So an app is alone with its store until another one is made.  From then
on both answer from the store of the later app, as that app alone would answer to all
requests, and the earlier store stays as it was left.
-/

namespace Gatekeeper

open Store

namespace Http

/-! ## Requests one after the other -/

def serveAll (s : Store) : List Request → List Served
  | [] => []
  | r :: rest => serve s r :: serveAll (serve s r).store rest

namespace Host

def ask (host : Host) (app : Nat) (r : Request) : Except Failure (Served × Host) :=
  if made : app < host.stores.length then host.request ⟨app, made⟩ r else .error .notInitialized

def askAll (host : Host) : List (Nat × Request) → Except Failure (List Served × Host)
  | [] => .ok ([], host)
  | sent :: rest =>
      (host.ask sent.1 sent.2).bind fun asked =>
        (asked.2.askAll rest).map fun done => (asked.1 :: done.1, done.2)

variable {earlier : List Store} {s : Store} {log : Log.Root}

theorem store_append : (⟨earlier ++ [s], log⟩ : Host).store = .ok s := by
  simp [store]

theorem replaceStore_append (t : Store) :
    (⟨earlier ++ [s], log⟩ : Host).replaceStore t = ⟨earlier ++ [t], log⟩ := by
  simp [replaceStore]

/-- Whichever app a request is sent to, only the store of the last one is read or changed. -/
theorem ask_append {app : Nat} (made : app < earlier.length + 1) (r : Request) :
    (⟨earlier ++ [s], log⟩ : Host).ask app r =
      .ok (serve s r, ⟨earlier ++ [(serve s r).store], log⟩) := by
  have present : app < (⟨earlier ++ [s], log⟩ : Host).stores.length := by
    simpa using made
  rw [ask, dif_pos present, request, store_append]
  simp only [replaceStore_append]

theorem askAll_append {requests : List (Nat × Request)}
    (made : ∀ sent ∈ requests, sent.1 < earlier.length + 1) :
    (⟨earlier ++ [s], log⟩ : Host).askAll requests =
      .ok (serveAll s (requests.map Prod.snd),
        ⟨earlier ++ [afterAll s (requests.map Prod.snd)], log⟩) := by
  induction requests generalizing s with
  | nil => rfl
  | cons sent rest ih =>
      rw [List.forall_mem_cons] at made
      have first := @ask_append earlier s log sent.1 made.1 sent.2
      have others := @ih (serve s sent.2).store made.2
      rw [askAll, first]
      -- The process is of the same form again.
      show (Host.askAll _ rest).map _ = _
      rw [others]
      rfl

/-- An app is made, and then requests are sent to it and to the apps that were made before. -/
theorem exists_askAll (host : Host) (s : Store) (config? : Option Config)
    (valueOf? : String → Option String) {requests : List (Nat × Request)}
    (made : ∀ sent ∈ requests, sent.1 < host.stores.length + 1) :
    ∃ fresh last, host.createApp (some s) config? valueOf? = .ok fresh ∧
      fresh.askAll requests = .ok (serveAll s (requests.map Prod.snd), last) ∧
      last.stores = host.stores ++ [afterAll s (requests.map Prod.snd)] := by
  obtain ⟨log, fresh⟩ := createApp_given host s config? valueOf?
  exact ⟨_, _, fresh, askAll_append made, rfl⟩

end Host

/-! ## Two apps -/

def sentTo (app : Nat) (requests : List Request) : List (Nat × Request) :=
  requests.map fun r => (app, r)

/-- Requests that are sent to two apps, which were made after `apps` others. -/
def sentAfter (apps : Nat) (requests : List (Fin 2 × Request)) : List (Nat × Request) :=
  requests.map fun sent => (apps + sent.1.val, sent.2)

theorem map_snd_sentTo (app : Nat) (requests : List Request) :
    (sentTo app requests).map Prod.snd = requests := by
  rw [sentTo, List.map_map]
  exact List.map_id requests

theorem map_snd_sentAfter (apps : Nat) (requests : List (Fin 2 × Request)) :
    (sentAfter apps requests).map Prod.snd = requests.map Prod.snd := by
  rw [sentAfter, List.map_map]
  rfl

theorem lt_of_mem_sentAfter {apps : Nat} {requests : List (Fin 2 × Request)}
    {sent : Nat × Request} (among : sent ∈ sentAfter apps requests) : sent.1 < apps + 2 := by
  obtain ⟨request, -, rfl⟩ := List.mem_map.mp among
  exact Nat.add_lt_add_left request.1.isLt apps

/-- An app is made, and then requests are sent to it. -/
theorem Host.exists_askAll_sentTo (host : Host) (s : Store) (config? : Option Config)
    (valueOf? : String → Option String) (requests : List Request) :
    ∃ fresh last, host.createApp (some s) config? valueOf? = .ok fresh ∧
      fresh.askAll (sentTo host.stores.length requests) = .ok (serveAll s requests, last) ∧
      last.stores = host.stores ++ [afterAll s requests] := by
  have made : ∀ sent ∈ sentTo host.stores.length requests, sent.1 < host.stores.length + 1 := by
    intro sent among
    obtain ⟨r, -, rfl⟩ := List.mem_map.mp among
    exact Nat.lt_succ_self host.stores.length
  have done := host.exists_askAll s config? valueOf? made
  rw [map_snd_sentTo] at done
  exact done

/-- Until a second app is made, the first one serves its requests alone.  From then on, in
whatever order requests are sent to the two, they are answered from the second store as the second
app would answer them all if there were no first one, and the first store is left as it was. -/
theorem later_app_serves_both (host : Host) (s₁ s₂ : Store) (config₁? config₂? : Option Config)
    (valueOf? : String → Option String) (before : List Request) (after : List (Fin 2 × Request)) :
    let apps := host.stores.length
    let requests := after.map Prod.snd
    ∃ first between second last alone left,
      host.createApp (some s₁) config₁? valueOf? = .ok first ∧
      first.askAll (sentTo apps before) = .ok (serveAll s₁ before, between) ∧
      between.stores = host.stores ++ [afterAll s₁ before] ∧
      between.createApp (some s₂) config₂? valueOf? = .ok second ∧
      second.askAll (sentAfter apps after) = .ok (serveAll s₂ requests, last) ∧
      last.stores = host.stores ++ [afterAll s₁ before, afterAll s₂ requests] ∧
      host.createApp (some s₂) config₂? valueOf? = .ok alone ∧
      alone.askAll (sentTo apps requests) = .ok (serveAll s₂ requests, left) ∧
      left.stores = host.stores ++ [afterAll s₂ requests] := by
  intro apps requests
  obtain ⟨first, between, made, answered, stored⟩ :=
    host.exists_askAll_sentTo s₁ config₁? valueOf? before
  have known : ∀ sent ∈ sentAfter apps after, sent.1 < between.stores.length + 1 := by
    intro sent among
    rw [stored, List.length_append, List.length_singleton]
    exact lt_of_mem_sentAfter among
  obtain ⟨second, last, added, shared, kept⟩ := between.exists_askAll s₂ config₂? valueOf? known
  rw [map_snd_sentAfter] at shared kept
  rw [stored, List.append_assoc] at kept
  obtain ⟨alone, left, lone, same, only⟩ :=
    host.exists_askAll_sentTo s₂ config₂? valueOf? requests
  exact ⟨first, between, second, last, alone, left, made, answered, stored, added, shared, kept,
    lone, same, only⟩

def requestsOf (app : Fin 2) (requests : List (Fin 2 × Request)) : List Request :=
  (requests.filter (·.1 = app)).map Prod.snd

def servedBy (app : Fin 2) (requests : List (Fin 2 × Request)) (served : List Served) :
    List Served :=
  ((requests.zip served).filter (·.1.1 = app)).map Prod.snd

def bobTwice : List (Fin 2 × Request) := [(1, registration bobForm), (0, registration bobForm)]

/-- The first app does not answer as it would alone: it knows a user who was only registered with
the second one. -/
theorem apps_not_isolated :
    ¬∀ (s₁ s₂ : Store) (requests : List (Fin 2 × Request)) (first second last : Host)
      (served : List Served),
      Host.createApp {} (some s₁) none (fun _ => none) = .ok first →
      first.createApp (some s₂) none (fun _ => none) = .ok second →
      second.askAll (sentAfter 0 requests) = .ok (served, last) →
      ∀ app : Fin 2,
        servedBy app requests served = serveAll ([s₁, s₂].get app) (requestsOf app requests) := by
  intro isolated
  obtain ⟨log₁, first⟩ := Host.createApp_given {} (blank .fast .counter []) none fun _ => none
  obtain ⟨log₂, second⟩ :=
    Host.createApp_given ⟨_, log₁⟩ (blank .fast .counter []) none fun _ => none
  have answered := @Host.askAll_append [blank .fast .counter []] (blank .fast .counter []) log₂
    (sentAfter 0 bobTwice) fun _ => lt_of_mem_sentAfter
  rw [map_snd_sentAfter] at answered
  have alone := isolated _ _ bobTwice _ _ _ _ first second answered 0
  have statuses := congrArg (List.map fun served => served.reply.response.status) alone
  have conflict : (servedBy 0 bobTwice
      (serveAll (blank .fast .counter []) (bobTwice.map Prod.snd))).map
        (fun served => served.reply.response.status) = [409] := by decide +kernel
  have created : (serveAll (blank .fast .counter []) (requestsOf 0 bobTwice)).map
      (fun served => served.reply.response.status) = [201] := by decide +kernel
  exact absurd (conflict.symm.trans (statuses.trans created)) (by decide)

end Http

end Gatekeeper
