import QueryClient.Stream.Source

/-!
# Scripted pages

A source that answers from a script. Every page of it stays pending for a number of polls; after the
last one every page fails to come. All that is asked of the source is kept, in order.
-/

namespace QueryClient

inductive FeedCall where
  | fetch (uri : String)
  | kill (uri : String)
  | killDetached (uri : String)
  deriving DecidableEq, Repr

/-- A page that stays pending for a number of polls, or the failure that comes instead. -/
structure FeedPage where
  pending : Nat
  page : Result QueryPage

structure Feed where
  /-- The pages that were not asked for yet. -/
  script : List FeedPage
  /-- The page that was asked for. -/
  current : Option FeedPage := none
  /-- What a page fails with after the script. -/
  exhausted : Error
  /-- What an awaited cancellation fails with. -/
  killFailure : Option Error := none
  /-- All calls so far, the last one first. -/
  calls : List FeedCall := []

namespace Feed

def call (f : Feed) (c : FeedCall) : Feed :=
  { f with calls := c :: f.calls }

def fetch (f : Feed) (uri : String) : Feed :=
  { f.call (.fetch uri) with current := f.script.head?, script := f.script.tail }

def poll (f : Feed) : Feed × PageAnswer :=
  match f.current with
  | none => (f, .ready (.error f.exhausted))
  | some ⟨0, page⟩ => ({ f with current := none }, .ready page)
  | some ⟨n + 1, page⟩ => ({ f with current := some ⟨n, page⟩ }, .pending)

def kill (f : Feed) (uri : String) : Feed × Result Unit :=
  (f.call (.kill uri), match f.killFailure with
    | some e => .error e
    | none => .ok ())

/-- What the page that was asked for and all pages after it count for together. -/
def total (count : FeedPage → Nat) (f : Feed) : Nat :=
  (f.current.map count).getD 0 + f.script.foldr (fun p n => count p + n) 0

theorem total_fetch_le (count : FeedPage → Nat) (f : Feed) (uri : String) :
    (f.fetch uri).total count ≤ f.total count := by
  cases h : f.script <;> simp [fetch, total, call, h]

/-- How many polls the script can still answer. -/
def remaining (f : Feed) : Nat :=
  f.total (·.pending + 1)

theorem remaining_fetch_le (f : Feed) (uri : String) : (f.fetch uri).remaining ≤ f.remaining :=
  f.total_fetch_le _ uri

theorem remaining_poll_lt (f : Feed) (h : f.poll.2.isFailure = false) :
    f.poll.1.remaining < f.remaining := by
  unfold poll at h ⊢
  split at h
  · simp [PageAnswer.isFailure] at h
  · next heq => simp [remaining, total, heq]
  · next heq => simp [remaining, total, heq]

def source : PageSource Feed where
  fetch := fetch
  poll f _ := f.poll
  kill := kill
  killDetached f uri := f.call (.killDetached uri)
  remaining := remaining
  remaining_fetch_le := remaining_fetch_le
  remaining_poll_lt f _ := remaining_poll_lt f

end Feed

end QueryClient
