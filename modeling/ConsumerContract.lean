import ConsumerContract.Files.Tree
import ConsumerContract.Main
import ConsumerContract.Pact.VerificationText
import ConsumerContract.Proofs.Compiled
import ConsumerContract.Proofs.Failures
import ConsumerContract.Proofs.Acceptance
import ConsumerContract.Proofs.Recorded
import ConsumerContract.Proofs.Accumulated
import ConsumerContract.Proofs.Selected
import ConsumerContract.Proofs.Variants
import ConsumerContract.Proofs.Samples
import ConsumerContract.Proofs.JsonTree
import ConsumerContract.Proofs.Numbers
import ConsumerContract.Proofs.UnknownMarkers
import ConsumerContract.Proofs.Unwrapped
import ConsumerContract.Proofs.ReadJson
import ConsumerContract.Proofs.PlainData
import ConsumerContract.Proofs.Usable
import ConsumerContract.Proofs.Authored
import ConsumerContract.Proofs.MarkedMatchers
import ConsumerContract.Proofs.MarkedComposites
import ConsumerContract.Proofs.Reported
import ConsumerContract.Proofs.Described
import ConsumerContract.Proofs.Contracts
import ConsumerContract.Proofs.Accounted
import ConsumerContract.Proofs.FileNames
import ConsumerContract.Proofs.FileTrees
import ConsumerContract.Proofs.MadeDirectories
import ConsumerContract.Proofs.KeptContracts
import ConsumerContract.Proofs.KeptInputs
import ConsumerContract.Proofs.SettledDirectories
import ConsumerContract.Proofs.BuiltInteractions
import ConsumerContract.Proofs.DepthLimit
import ConsumerContract.Proofs.DirectoryReports
import ConsumerContract.Proofs.WrittenPatterns
import ConsumerContract.Proofs.OtherElements
import ConsumerContract.Proofs.NamedElements
import ConsumerContract.Proofs.WrittenDeclarations
import ConsumerContract.Proofs.QuotedText
import ConsumerContract.Proofs.EncodedMessages
import ConsumerContract.Proofs.ProviderStates
import ConsumerContract.Proofs.Searches
import ConsumerContract.Proofs.FoundMatches
import ConsumerContract.Proofs.ListedTexts
import ConsumerContract.Proofs.Wildcards
import ConsumerContract.Proofs.ShortDescriptions
import ConsumerContract.Proofs.OverriddenSettings
import ConsumerContract.Proofs.PrintedJson
import ConsumerContract.Proofs.ShownIssues
