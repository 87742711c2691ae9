import NetBoot.Calendar.Iso
import NetBoot.Main
import NetBoot.Packet.Assignment
import NetBoot.Session.Script
import NetBoot.Text.Line
import NetBoot.Time.Bench
import NetBoot.Proofs.Session.Action
import NetBoot.Proofs.Settings.Coherence
import NetBoot.Proofs.Session.Run
import NetBoot.Proofs.Session.Move
import NetBoot.Proofs.Session.Steps
import NetBoot.Proofs.Session.Reentry
import NetBoot.Proofs.Session.Budget
import NetBoot.Proofs.Session.Completion
import NetBoot.Proofs.Options.Grammar
import NetBoot.Proofs.Options.RoundTrip
import NetBoot.Proofs.Bytes.Range
import NetBoot.Proofs.Options.Nested
import NetBoot.Proofs.Options.Stores
import NetBoot.Proofs.Session.Retention
import NetBoot.Proofs.Session.Chronicle
import NetBoot.Proofs.Session.Arbitration
import NetBoot.Proofs.Packet.Carries
import NetBoot.Proofs.Request.Contents
import NetBoot.Proofs.Session.Course
import NetBoot.Proofs.Session.Phases
import NetBoot.Proofs.Session.Requests
import NetBoot.Proofs.Session.HeldOffers
import NetBoot.Proofs.Options.Footprint
import NetBoot.Proofs.Options.Length
import NetBoot.Proofs.Packet.Stores
import NetBoot.Proofs.Request.Outcome
import NetBoot.Proofs.Session.Anatomy
import NetBoot.Proofs.Session.Delivery
import NetBoot.Proofs.Session.Echo
import NetBoot.Proofs.Time.Firing
import NetBoot.Proofs.Settings.Paths
import NetBoot.Proofs.Session.ProxySettings
import NetBoot.Proofs.Options.Changes
import NetBoot.Proofs.Options.Refusals
import NetBoot.Proofs.Settings.Replacement
import NetBoot.Proofs.Packet.Full
import NetBoot.Proofs.Lease.ProxyReply
import NetBoot.Proofs.Time.Backoff
import NetBoot.Proofs.Settings.Publication
import NetBoot.Proofs.Session.RefusedRegistration
import NetBoot.Proofs.Settings.Ancestry
import NetBoot.Proofs.Settings.Walk
import NetBoot.Proofs.Settings.Finding
import NetBoot.Proofs.Settings.Namesake
import NetBoot.Proofs.Lease.Contents
import NetBoot.Proofs.Options.Normal
import NetBoot.Proofs.Options.Removal
import NetBoot.Proofs.Request.Environment
import NetBoot.Proofs.Session.Unbuilt
import NetBoot.Proofs.Settings.Circles
import NetBoot.Proofs.Text.Parts
import NetBoot.Proofs.Text.Decimal
import NetBoot.Proofs.Feature.Lists
import NetBoot.Proofs.Lease.AddressLists
import NetBoot.Proofs.Setting.Shown
import NetBoot.Proofs.Request.Advertising
import NetBoot.Proofs.LinkAddress.Spelling
import NetBoot.Proofs.Packet.Assignments
import NetBoot.Proofs.Udp.Traffic
