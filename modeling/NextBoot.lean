import NextBoot.Ascending
import NextBoot.Bytes
import NextBoot.Errno
import NextBoot.Failure
import NextBoot.FileName
import NextBoot.Firmware.BootEntries
import NextBoot.Firmware.BootOrder
import NextBoot.Firmware.Directory
import NextBoot.Firmware.Guid
import NextBoot.Firmware.InodeFlags
import NextBoot.Firmware.LoadOption
import NextBoot.Firmware.Promotion
import NextBoot.Firmware.VariableStore
import NextBoot.Image.Assets
import NextBoot.Image.Error
import NextBoot.Image.SectionReader
import NextBoot.Image.SectionTable
import NextBoot.Image.StoredCommandLine
import NextBoot.Image.Writer
import NextBoot.Invocation
import NextBoot.Kexec.Diagnostics
import NextBoot.Kexec.ImageBoot
import NextBoot.Kexec.Kernel
import NextBoot.Kexec.Layout
import NextBoot.Kexec.Loader
import NextBoot.Log
import NextBoot.Log.Filter
import NextBoot.Main
import NextBoot.Mount
import NextBoot.Path
import NextBoot.PathState
import NextBoot.Payload
import NextBoot.Program
import NextBoot.Proofs.ByteWindow
import NextBoot.Proofs.CommandLineForm
import NextBoot.Proofs.DocumentedParser
import NextBoot.Proofs.Firmware.BrokenEntries
import NextBoot.Proofs.Firmware.EntryFrame
import NextBoot.Proofs.Firmware.EntryMap
import NextBoot.Proofs.Firmware.EntryNames
import NextBoot.Proofs.Firmware.FailedChanges
import NextBoot.Proofs.Firmware.FlagIndependence
import NextBoot.Proofs.Firmware.FlagPreservation
import NextBoot.Proofs.Firmware.ListedEntries
import NextBoot.Proofs.Firmware.LoadOptionFormat
import NextBoot.Proofs.Firmware.OrderCodec
import NextBoot.Proofs.Firmware.PromotedOrder
import NextBoot.Proofs.Firmware.PromotionRun
import NextBoot.Proofs.Firmware.SecureBootState
import NextBoot.Proofs.Firmware.StoredOrder
import NextBoot.Proofs.Firmware.VariableFiles
import NextBoot.Proofs.Firmware.VariableKeys
import NextBoot.Proofs.Firmware.VariableListing
import NextBoot.Proofs.Firmware.VariableMap
import NextBoot.Proofs.GivenFields
import NextBoot.Proofs.Image.AppendedBytes
import NextBoot.Proofs.Image.CommandLineReadings
import NextBoot.Proofs.Image.ExtractVerdict
import NextBoot.Proofs.Image.FirstHeader
import NextBoot.Proofs.Image.GuardedReading
import NextBoot.Proofs.Image.HeaderFields
import NextBoot.Proofs.Image.HeaderGrammar
import NextBoot.Proofs.Image.PatchRun
import NextBoot.Proofs.Image.PatchVerdict
import NextBoot.Proofs.Image.PlacedPayloads
import NextBoot.Proofs.Image.ReadLoop
import NextBoot.Proofs.Image.ReadRun
import NextBoot.Proofs.Image.SharedReaders
import NextBoot.Proofs.Image.WrittenImage
import NextBoot.Proofs.Image.WrittenTable
import NextBoot.Proofs.InterleavedArguments
import NextBoot.Proofs.JoinedCommandLine
import NextBoot.Proofs.Kexec.CallTrace
import NextBoot.Proofs.Kexec.HandOver
import NextBoot.Proofs.Kexec.PermissionDiagnosis
import NextBoot.Proofs.Kexec.ProtocolAgreement
import NextBoot.Proofs.Kexec.SegmentPlacement
import NextBoot.Proofs.Kexec.Staging
import NextBoot.Proofs.Outcome
import NextBoot.Proofs.ParsedSettings
import NextBoot.Proofs.Stream
import NextBoot.Proofs.Text.EncodedOrder
import NextBoot.Proofs.Text.EncodedParts
import NextBoot.Proofs.Text.EncodedZeros
import NextBoot.Proofs.Text.HexDigits
import NextBoot.Proofs.Text.Numerals
import NextBoot.Proofs.Text.SurrogatePairs
import NextBoot.Proofs.Text.Trimmed
import NextBoot.Proofs.Toml.DistinctKeys
import NextBoot.Settings
import NextBoot.Stream
import NextBoot.Text.Alphabetic
import NextBoot.Text.Characters
import NextBoot.Text.Escaped
import NextBoot.Text.GraphemeExtend
import NextBoot.Text.Number
import NextBoot.Text.Pattern
import NextBoot.Text.Unprintable
import NextBoot.Text.Utf16
import NextBoot.Text.Utf8
import NextBoot.Toml.Document
import NextBoot.Toml.Lexeme
import NextBoot.Toml.Scalar
import NextBoot.Toml.Value
