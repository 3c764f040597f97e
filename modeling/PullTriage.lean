import PullTriage.Files.Tree
import PullTriage.Forge.Memory
import PullTriage.Main
import PullTriage.Proofs.Regex.Search
import PullTriage.Proofs.Regex.Anchored
import PullTriage.Proofs.Regex.Language
import PullTriage.Proofs.Glob.Pieces
import PullTriage.Proofs.Label.GlobRule
import PullTriage.Proofs.Label.Classification
import PullTriage.Proofs.Label.RuleErrors
import PullTriage.Proofs.Config.Loading
import PullTriage.Proofs.Forge.Address
import PullTriage.Proofs.Forge.Course
import PullTriage.Proofs.Triage.Calls
import PullTriage.Proofs.Triage.OverGitHub
import PullTriage.Proofs.Forge.Answers
import PullTriage.Proofs.Triage.Effect
import PullTriage.Proofs.Triage.DryRun
import PullTriage.Proofs.RepoSlug
import PullTriage.Proofs.Triage.Sources
import PullTriage.Proofs.Label.Paths
import PullTriage.Proofs.Forge.Events
import PullTriage.Proofs.Forge.Interleaving
import PullTriage.Proofs.Triage.Concurrent
import PullTriage.Proofs.Label.FreeText
import PullTriage.Proofs.Comment
import PullTriage.Proofs.Label.Builtin
import PullTriage.Proofs.Glob.Captures
import PullTriage.Proofs.Triage.Secrecy
import PullTriage.Proofs.Cli.Preview
import PullTriage.Proofs.Cli.SameManifest
import PullTriage.Proofs.Forge.Contents
import PullTriage.Proofs.Manifest.Grammar
import PullTriage.Proofs.Label.Template
import PullTriage.Proofs.Label.Making
import PullTriage.Proofs.Label.ReleaseLine
import PullTriage.Proofs.RepoSlug.OtherHosts
import PullTriage.Proofs.Manifest.Owners
import PullTriage.Proofs.Config.LabelTables
import PullTriage.Proofs.Config.Serialization
import PullTriage.Proofs.Event
import PullTriage.Proofs.Forge.Outcomes
import PullTriage.Proofs.Forge.Endpoints
import PullTriage.Proofs.Label.BuiltinText
import PullTriage.Proofs.Label.Shadowing
import PullTriage.Proofs.Label.Insertions
