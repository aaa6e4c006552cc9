import OpenLibrary.Library.Machine
import OpenLibrary.Model.State
import OpenLibrary.Model.BookSearchManager
import OpenLibrary.Model.MainScreen
import OpenLibrary.Model.Step
import OpenLibrary.Model.Effect
import OpenLibrary.Model.Frame
import OpenLibrary.Search.Answers
import OpenLibrary.Search.Superseded
import OpenLibrary.Library.Assignments
import OpenLibrary.Wishlist.Store
import OpenLibrary.Wishlist.Presses
import OpenLibrary.Wishlist.Atomic
import OpenLibrary.Wishlist.Flags
import OpenLibrary.Screen.Tab
import OpenLibrary.Screen.Deleted
import OpenLibrary.Screen.Rows
import OpenLibrary.Search.Pipeline
import OpenLibrary.Search.Debounce
import OpenLibrary.Search.Structuring
import OpenLibrary.Search.Verdict
import OpenLibrary.Screen.Scroll
import OpenLibrary.Search.Covers
import OpenLibrary.Wishlist.Copies
import OpenLibrary.Library.Uri
import OpenLibrary.Search.Query
import OpenLibrary.Model.Views
import OpenLibrary.Screen.Display
import OpenLibrary.Wishlist.Outcome
import OpenLibrary.Screen.Popup
import OpenLibrary.Library.Rest
import OpenLibrary.Screen.Rest
import OpenLibrary.Screen.Sequential
import OpenLibrary.Wishlist.Durable
import OpenLibrary.Screen.Shelf
import OpenLibrary.Screen.Refinement
import OpenLibrary.Search.Typed
import OpenLibrary.Search.Buffer
import OpenLibrary.Search.Requests
import OpenLibrary.Library.Exchange
import OpenLibrary.Screen.Crashes
import OpenLibrary.Search.Interleaving
import OpenLibrary.Library.Keyed
import OpenLibrary.Wishlist.Journal
