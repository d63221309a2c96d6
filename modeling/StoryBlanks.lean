import StoryBlanks.Main
import StoryBlanks.Proofs.Catalog.Index
import StoryBlanks.Proofs.Library.Merging
import StoryBlanks.Proofs.Lint.Folder
import StoryBlanks.Proofs.Lint.Lost
import StoryBlanks.Proofs.Lint.StrictPlay
import StoryBlanks.Proofs.Preview.Naming
import StoryBlanks.Proofs.Preview.Switching
import StoryBlanks.Proofs.Preview.Typing
import StoryBlanks.Proofs.RecordText.Characters
import StoryBlanks.Proofs.RecordText.RoundTrip
import StoryBlanks.Proofs.RecordText.Tokens
import StoryBlanks.Proofs.RecordText.Values
import StoryBlanks.Proofs.Scene.Asking
import StoryBlanks.Proofs.Scene.Choices
import StoryBlanks.Proofs.Scene.Edit
import StoryBlanks.Proofs.Scene.Keeping
import StoryBlanks.Proofs.Scene.Remaining
import StoryBlanks.Proofs.Scene.Settled
import StoryBlanks.Proofs.Scene.Shown
import StoryBlanks.Proofs.Selection.Accounting
import StoryBlanks.Proofs.Selection.Assignment
import StoryBlanks.Proofs.Selection.Foretelling
import StoryBlanks.Proofs.Selection.Grouping
import StoryBlanks.Proofs.Selection.Transaction
import StoryBlanks.Proofs.Sentence.Joined
import StoryBlanks.Proofs.Sentence.Literal
import StoryBlanks.Proofs.Sentence.Nested
import StoryBlanks.Proofs.Sentence.Remainder
import StoryBlanks.Proofs.Sentence.Splice
