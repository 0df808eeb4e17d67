import CollectionRunner.Collection.Encode
import CollectionRunner.Main
import CollectionRunner.Proofs.Collection.Listing
import CollectionRunner.Proofs.Collection.RoundTrip
import CollectionRunner.Proofs.Collection.Sources
import CollectionRunner.Proofs.Collection.Spellings
import CollectionRunner.Proofs.Console.Entries
import CollectionRunner.Proofs.Http.Handed
import CollectionRunner.Proofs.Http.HeaderChecks
import CollectionRunner.Proofs.Http.Shapes
import CollectionRunner.Proofs.Http.SwitchedOff
import CollectionRunner.Proofs.Json.Positions
import CollectionRunner.Proofs.Json.WholeNumbers
import CollectionRunner.Proofs.Program.Listed
import CollectionRunner.Proofs.Program.Stages
import CollectionRunner.Proofs.Run.Course
import CollectionRunner.Proofs.Run.Disabled
import CollectionRunner.Proofs.Run.Growth
import CollectionRunner.Proofs.Run.Merging
import CollectionRunner.Proofs.Run.Written
import CollectionRunner.Proofs.Scope.Precedence
import CollectionRunner.Proofs.Scope.Pushes
import CollectionRunner.Proofs.Scope.ValueMap
import CollectionRunner.Proofs.Script.HeaderObject
import CollectionRunner.Proofs.Script.Interrupt
import CollectionRunner.Proofs.Script.StatusCheck
import CollectionRunner.Proofs.Script.TestCalls
import CollectionRunner.Proofs.Template.Scanner
import CollectionRunner.Proofs.Template.Seams
import CollectionRunner.Proofs.Template.Staged
import CollectionRunner.Proofs.Text.Fitting
import CollectionRunner.Proofs.Variables.Assigned
import CollectionRunner.Proofs.Variables.History
