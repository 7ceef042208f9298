import CompilerRunner.Main
import CompilerRunner.Options.Session
import CompilerRunner.Package.Files
import CompilerRunner.Package.Walk
import CompilerRunner.Registry
import CompilerRunner.Markup.EmojiNames
import CompilerRunner.Text.Tab
import CompilerRunner.Text.Word
import CompilerRunner.Proofs.Grammar
import CompilerRunner.Proofs.Pipeline
import CompilerRunner.Proofs.ExitStatus
import CompilerRunner.Proofs.SettingsMerge
import CompilerRunner.Proofs.DryRun
import CompilerRunner.Proofs.TargetSpelling
import CompilerRunner.Proofs.Isolation
import CompilerRunner.Proofs.SettingsFailure
import CompilerRunner.Proofs.RegistryHistory
import CompilerRunner.Proofs.StartFailure
import CompilerRunner.Proofs.CompileCommand
import CompilerRunner.Proofs.SettingsInheritance
import CompilerRunner.Proofs.RegistryIndex
import CompilerRunner.Proofs.EntryPointConfiguration
import CompilerRunner.Proofs.CallableReference
import CompilerRunner.Proofs.ShellWords
import CompilerRunner.Proofs.PrintedArguments
import CompilerRunner.Proofs.Resolution
import CompilerRunner.Proofs.DirectoryChain
import CompilerRunner.Proofs.PathSpelling
import CompilerRunner.Proofs.SettingsSpelling
import CompilerRunner.Proofs.ByteDecoding
import CompilerRunner.Proofs.CapturedOutput
import CompilerRunner.Proofs.CanonicalOptions
import CompilerRunner.Proofs.OptionDefects
import CompilerRunner.Proofs.WorkingDirectory
import CompilerRunner.Proofs.MarkupText
import CompilerRunner.Proofs.TargetListing
import CompilerRunner.Proofs.PackageImport
import CompilerRunner.Proofs.ImportCompleteness
import CompilerRunner.Proofs.ChildInput
import CompilerRunner.Proofs.OptionSession
import CompilerRunner.Proofs.DocumentSequence
