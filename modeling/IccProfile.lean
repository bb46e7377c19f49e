import IccProfile.Main
import IccProfile.Profile.Summary
import IccProfile.Proofs.Catalog.Cache
import IccProfile.Proofs.Catalog.Complete
import IccProfile.Proofs.Catalog.Identified
import IccProfile.Proofs.Catalog.Lookup
import IccProfile.Proofs.Catalog.Repairs
import IccProfile.Proofs.Checked.Session
import IccProfile.Proofs.CommandLine.Assignment
import IccProfile.Proofs.CommandLine.Dump
import IccProfile.Proofs.CommandLine.FixId
import IccProfile.Proofs.Json.Layout
import IccProfile.Proofs.Json.Reading
import IccProfile.Proofs.Keyed
import IccProfile.Proofs.Matching.DevicePattern
import IccProfile.Proofs.Matching.Order
import IccProfile.Proofs.Matching.Registered
import IccProfile.Proofs.Profile.Embedded
import IccProfile.Proofs.Profile.Identity
import IccProfile.Proofs.Profile.Laziness
import IccProfile.Proofs.Profile.StoredText
import IccProfile.Proofs.Profile.TagTable
import IccProfile.Proofs.Json.RoundTrip
import IccProfile.Proofs.Device.Documents
import IccProfile.Proofs.Settings.RankMaps
import IccProfile.Proofs.Settings.Isolation
import IccProfile.Proofs.Settings.Order
import IccProfile.Proofs.Text.Utf8
import IccProfile.Proofs.Settings.Persistence
import IccProfile.Proofs.Header.Parts
import IccProfile.Proofs.Profile.RequiredStarts
import IccProfile.Proofs.Tag.LocalizedRecords
import IccProfile.Proofs.Tag.LocaleChoice
import IccProfile.Proofs.Device.Exported
import IccProfile.Proofs.Tag.TextSize
import IccProfile.Proofs.Text.Utf16
import IccProfile.Proofs.Files.Tree
import IccProfile.Proofs.Catalog.KnownFiles
