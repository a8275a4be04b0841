import SubscriptLint.CommandLine.Run
import SubscriptLint.Inspection.Samples
import SubscriptLint.Main
import SubscriptLint.Proofs.Sites
import SubscriptLint.Source.Shared
import SubscriptLint.Tree.Listing
import SubscriptLint.Proofs.Placement
import SubscriptLint.Proofs.Construction
import SubscriptLint.Proofs.Positions
import SubscriptLint.Proofs.Cuts
import SubscriptLint.Proofs.Lines
import SubscriptLint.Proofs.LineBytes
import SubscriptLint.Proofs.LinePieces
import SubscriptLint.Proofs.Rendering
import SubscriptLint.Proofs.KnownTypes
import SubscriptLint.Proofs.LetterCase
import SubscriptLint.Proofs.CanonicalNames
import SubscriptLint.Proofs.Expectation
import SubscriptLint.Proofs.Analysis
import SubscriptLint.Proofs.InheritedSearch
import SubscriptLint.Proofs.ChainedSearch
import SubscriptLint.Proofs.Assembly
import SubscriptLint.Proofs.DepthFirst
import SubscriptLint.Proofs.Edits
import SubscriptLint.Proofs.Squaring
import SubscriptLint.Proofs.BracketFixes
import SubscriptLint.Proofs.ContainerVerdict
import SubscriptLint.Proofs.MoreClasses
import SubscriptLint.Proofs.RepeatedClasses
import SubscriptLint.Proofs.SameTypes
import SubscriptLint.Proofs.CandidateTypes
import SubscriptLint.Proofs.Spelling
import SubscriptLint.Proofs.SingleFiles
import SubscriptLint.Proofs.CurlyAsSquare
import SubscriptLint.Proofs.Origins
import SubscriptLint.Proofs.SoundAnalysis
import SubscriptLint.Proofs.SearchRounds
import SubscriptLint.Proofs.IdleNames
import SubscriptLint.Proofs.SoleSupertype
import SubscriptLint.Proofs.InheritedVerdict
import SubscriptLint.Proofs.CandidateClasses
import SubscriptLint.Proofs.UnrelatedClasses
import SubscriptLint.Proofs.IncompatibleTypes
import SubscriptLint.Proofs.Routes
import SubscriptLint.Proofs.WalkOrder
import SubscriptLint.Proofs.Caret
import SubscriptLint.Proofs.Refusals
import SubscriptLint.Proofs.LineTexts
import SubscriptLint.Proofs.LastEntries
import SubscriptLint.Proofs.RecordedValues
import SubscriptLint.Proofs.SetHistory
import SubscriptLint.Proofs.ExactTypes
import SubscriptLint.Proofs.DeclaredNames
import SubscriptLint.Proofs.ByteOrder
import SubscriptLint.Proofs.NameOrder
import SubscriptLint.Proofs.NameKeys
