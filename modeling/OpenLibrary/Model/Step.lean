import OpenLibrary.Library.Machine
import OpenLibrary.Model.BookSearchManager
import OpenLibrary.Model.WishlistManager
import OpenLibrary.Model.MainScreen

/-!
# The steps of the application

`application F` is the machine of the running process. What runs on the main thread waits
until no notification is being posted there; the callbacks of the network and of dispatch
groups run on other threads at any time. Each of them is one step, from its first statement to its
last: the handler of a response with the loop over its documents and the start of its cover tasks,
the handler of a cover, and the `notify` block with the loop of `determineWishlistBooks` and the
completion after it. Only a press is two steps, one for each of its transactions. `lifecycle F`
adds the end of the process, at any moment or by a trap, after which only the store is left, and
the start of a new one.
-/

namespace OpenLibrary

/-- What happens next in the running process. -/
inductive Action where
  | screen (action : ScreenAction)
  /-- A search timer fires. -/
  | beginRequest (timer : Nat)
  /-- The data task of `requesBookInfo` is answered. -/
  | bookInfoResponse (r : Nat) (data : InfoData)
  /-- A data task of `requesBookCovers` is answered. -/
  | coverResponse (task : CoverTask) (data : Option Data)
  /-- The `notify` block of a dispatch group runs. -/
  | coversNotified (r : Nat)
  /-- The wishlist button of a cell is pressed. -/
  | userPressedWishlistButton (row : Nat)
  /-- The wishlist button of the popup is pressed. -/
  | notifyWishlistOfUpdate
  /-- The posted notification is handled. -/
  | addOrDeleteBookFromWishlist

namespace State

/-- A step of the main thread, which runs when no notification is being posted. -/
def onMainThread (s : State) (next : Except Fault State) : Except Fault State :=
  if s.posting.isSome then .error .disabled else next

/-- `bookSearchTimer.userInfo as? String`. -/
def userInfo (s : State) : Option String :=
  s.screen.scheduledTimers.lookup s.screen.bookSearchTimer

/-- A timer has fired and is not scheduled any more. -/
def timerFired (s : State) (timer : Nat) : State :=
  { s with screen := { s.screen with
    scheduledTimers := s.screen.scheduledTimers.filter (fun t => t.1 ≠ timer) } }

/-- `MainScreenPresenter.beginRequest`, when a timer fires. -/
def beginRequest (F : Foundation) (s : State) (timer : Nat) : Except Fault State :=
  if (s.screen.scheduledTimers.lookup timer).isSome then
    match s.userInfo with
    | none => .ok (s.timerFired timer)
    | some bookQuery => (s.timerFired timer).requestAPI F bookQuery
  else
    .error .disabled

/-- The state after a screen action. -/
def onScreen (s : State) (action : ScreenAction) : Except Fault State :=
  (s.screenStep action).map
    (fun next => { s with screen := next.1, history := s.history ++ next.2 })

/-- The state after an action. -/
def step (F : Foundation) (s : State) : Action → Except Fault State
  | .screen action => s.onMainThread (s.onScreen action)
  | .beginRequest timer => s.onMainThread (s.beginRequest F timer)
  | .bookInfoResponse r data => s.bookInfoResponse r data
  | .coverResponse task data => s.coverResponse task data
  | .coversNotified r => s.coversNotified r
  | .userPressedWishlistButton row => s.onMainThread (s.userPressedWishlistButton row)
  | .notifyWishlistOfUpdate => s.onMainThread s.notifyWishlistOfUpdate
  | .addOrDeleteBookFromWishlist => s.addOrDeleteBookFromWishlist

end State

/-- The machine of the running process. -/
def application (F : Foundation) : Machine State Action Fault where
  step := State.step F

/-! ### Starts and ends of the process -/

/-- The application on a device: a running process, or the store it left. -/
inductive Process where
  | running (s : State)
  | terminated (realm : Realm)

/-- What happens next on the device. -/
inductive Signal where
  /-- The application is started. -/
  | launch
  /-- The running process does a step. -/
  | act (a : Action)
  /-- The process is terminated, or a write transaction about to be made fails. -/
  | terminate

/-- The store of a running process, or the one left. -/
def Process.realm : Process → Realm
  | running s => s.realm
  | terminated realm => realm

/-- The device after a signal. A trap ends the process; every trap comes before the
transaction of its step. -/
def Process.step (F : Foundation) : Process → Signal → Except Fault Process
  | terminated realm, .launch => .ok (running (OpenLibrary.launch realm))
  | running s, .act a =>
      match s.step F a with
      | .ok t => .ok (running t)
      | .error (.trap _) => .ok (terminated s.realm)
      | .error .disabled => .error .disabled
  | running s, .terminate => .ok (terminated s.realm)
  | _, _ => .error .disabled

/-- The machine of the device. -/
def lifecycle (F : Foundation) : Machine Process Signal Fault where
  step := Process.step F

end OpenLibrary
