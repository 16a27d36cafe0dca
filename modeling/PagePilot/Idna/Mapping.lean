import PagePilot.Idna.Table
/-!
# PagePilot.Idna.Mapping

What becomes of each character of a host name before the name is looked at: most
characters stay, capitals and other variants are replaced, some are left out, and
some are refused. The table is that of Unicode 17, without transitional rules.
-/

namespace PagePilot.Idna

/-- What becomes of a character. -/
inductive Mapping
  | kept
  | dropped
  | refused
  | replaced (by_ : List Char)
deriving Repr, DecidableEq

/-- What becomes of the characters of a run. -/
inductive RunRule
  | same (mapping : Mapping)
  /-- They become the run of the same length that starts at a number. -/
  | shifted (first : Nat)
  /-- Each second one stays, and the one before it becomes it. -/
  | paired
deriving Repr

/-- A run of characters. -/
structure Run where
  length : Nat
  rule : RunRule
deriving Repr

/-- Reads the rule of a run: a capital, and numbers behind it. -/
def readRule : List Char → RunRule
  | 'V' :: _ => .same .kept
  | 'I' :: _ => .same .dropped
  | 'P' :: _ => .paired
  | 'S' :: rest => .shifted (readNumber rest).1
  | 'M' :: rest => .same (.replaced ((readNumbersFrom 0 rest).map Char.ofNat))
  | _ => .same .refused

/-- Reads a run: its length, one when left out, and its rule. -/
def readRun (entry : List Char) : Run :=
  let (length, rest) := readNumber entry
  { length := if length = 0 then 1 else length, rule := readRule rest }

/-- All runs, from the first character on. -/
def mappingLines : List String :=
  [ "1tV qS2p 11V wX Mw 7V Mw.lk V M2p 2V I V Mw.lg 2V 2S1e Mw.ld Mqk 2V Mw.mf M1d M33 V",
    "M1d.6dg.1g M1d.6dg.1e M1f.6dg.1g V nS68 V 7S6w xV 1cP M2x.lj V 2M2x.2y 4P V 6P 2M30.53",
    "8P Mjg.32 1aP M73 6P M37 V Mgj 4P Mgk Maw V 2Sgm Mb0 2V Md9 Mgp Mgr Mb6 V Mgw Mgz V Mh5",
    "Mh4 Mbd 3V Mhb Mhe V Mhh 6P Mhs Mbs V Mhv 2V Mbx V Mi0 Mc0 V 2Si2 4P Mia Mc9 3V Mcd 7V",
    "3M2s.am 3M30.2y 3M32.2y gP V iP V 3M2s.3e Mdx V Mb9 Mcf 14P Mbi V iP 6V M8rp Mfw V Mbe",
    "M8rq 2V Mg2 V Mao Mi1 Mi4 aP 2oV M2w Mh2 M2y M36 Mhl Mhn Mht M3b M3d vV Mw.li Mw.lj",
    "Mw.lm Mw.mg Mw.lf Mw.ln 2V Mgz M30 M37 M3c Mid 2jV 2Slc V Mlv Mlk.ld Mqh 9V I wV 4P Mjd",
    "V Mon V 2X Mw.qh 3V M1n Ms3 4X Mw.ld Mw.lk.ld Mq4 M53 3Sq5 X Mr0 X 2Sr1 V hSq9 X 9Sqr zV",
    "Mrb Mqa Mqg Mqt Mr1 Mqz Mqu Mqo V oP Mqi Mqp Mqr V Mqg Mqd V Ms8 V Mqr Msb 2V 3Sor gSuo",
    "wSts 1cV yP 8V 1iP My7 eP V 2oP X 12S129 2X 1aV M12d.136 3V 2X 3V X 1jV 8X rV 4X 6V hX",
    "mV X 2gV M17r.19w M18o.19w M1c7.19w M18q.19w 2sV X 1cV 2X 1nV 2X 2tV eX 1nV 2X 1dV 2X fV",
    "X sV 2X V X bV 5X wV 7X 23V X 39V M1sl.1to M1sm.1to M1sn.1to M1ss.1to M1sx.1to M1sy.1to",
    "M1t7.1to M1tb.1to 10V X 8V 2X 2V 2X mV X 7V X V 3X 4V 2X 9V 2X 2V 2X 4V 8X V 4X M1wh.1x8",
    "M1wi.1x8 X M1wv.1x8 4V 2X pV 2X 3V X 6V 4X 2V 2X mV X 7V X V M20i.20s X V M20o.20s X 2V",
    "2X V X 5V 4X 2V 2X 3V 3X V 7X M1zq.20s M1zr.20s M1zw.20s V X M20b.20s 7X hV aX 3V X 9V X",
    "3V X mV X 7V X 2V X 5V 2X aV X 3V X 3V 2X V fX 4V 2X cV 7X 7V X 3V X 8V 2X 2V 2X mV X 7V",
    "X 2V X 5V 2X 9V 2X 2V 2X 3V 7X 3V 4X M275.27w M276.27w X 5V 2X iV aX 2V X 6V 3X 3V X 4V",
    "3X 2V X V X 2V 3X 2V 3X 3V 3X cV 4X 5V 3X 3V X 4V 2X V 6X V eX lV 5X dV X 3V X nV X gV",
    "2X 9V X 3V X 4V 7X 2V X 3V X 2V 2X 4V 2X aV 7X mV X 3V X nV X aV X 5V 2X 9V X 3V X 4V 7X",
    "2V 5X 3V X 4V 2X aV X 3V cX dV X 3V X 1fV X 3V X 6V 4X gV 2X qV X 3V X iV 3X oV X 9V X V",
    "2X 7V 3X V 4X 6V X V X 8V 6X aV 2X 3V cX 1eV M2tp.2sy 7V 4X tV 11X 2V X V X 5V X oV X V",
    "X cV M2x9.2wi aV 2X 5V X V X 7V X aV 2X M2wb.2vt M2wb.2w1 2V wX cV M2yz 1iV M30i.33r 4V",
    "X 4V M30s.33r 4V M30x.33r 4V M312.33r 4V M317.33r cV M30g.33p 3V 4X 2V M31t.31u V",
    "M31t.31w M33m.328 M33m.31t.328 M33n.328 M33n.31t.328 7V M31t.328 hV M32q.33r 4V X 4V",
    "M330.33r 4V M335.33r 4V M33a.33r 4V M33f.33r cV M32o.33p 3V X fV X dV 11X 4gV 12S8w0 X",
    "M8x3 5X M8x9 2X 18V M3bw 2qV 2I 6gV X 4V 2X 7V X V X 4V 2X 15V X 4V 2X xV X 4V 2X 7V X V",
    "X 4V 2X fV X 1lV X 4V 2X 1vV 2X wV 3X qV 6X 2eV 2X 6S3xs 2X hsV X sV 3X 2hV 7X mV 9X oV",
    "9X kV cX dV X 3V X 2V cX 1gV 2I 14V 2X aV 6X aV 6X bV 5I aV 6X 2hV 7X 17V 5X 1yV aX vV X",
    "cV 4X cV 4X V 3X 16V 2X 5V bX 18V 4X qV 6X bV 3X 1qV 2X 1tV X tV 2X bV 6X aV 6X eV 2X",
    "1aV 2X cV kX 25V X 4mV 8X 1oV 3X fV 3X 1fV Mtu Mtw Mu6 2Su9 Mua Mui Mv7 Mwuj M5my V 5X",
    "17S3bk 2X 3S3ct 8V 8X 17V 5X 18V M2p M6e M2q V 2S2s Md9 8S2v V M33 Mf7 M34 M36 2S38 M3b",
    "M2p 2Sgg M5qa M2q 2S2s Mgp 2Sgr M2v V M2z M31 M97 M33 Mgk 2S5qu M34 2S38 M5r1 Mhb M3a",
    "M5r9 3Sqa 2Squ M2x M36 2S39 2Sqa Mqp 2Squ dV Mu5 yV Mgi M2r Mgl M6o Mgs M2u Mgv Mgx Mh1",
    "3Sh4 M5tn Mil Mh9 M5tx Min Mhd Mhc 4She Mhk 2Shu Mbv 2Si1 M5r0 2Si3 M3e 3Si8 Mqg 1sV 46P",
    "4V M2p.ji M601 2V M67 V 2oP 8V 8S64g 6V 2X 6S64w 2X 8V 8S65c 8V 8S65s 6V 2X 6S668 2X 8V",
    "X M66p X M66r X M66t X M66v 8V 8S674 V Mq4 V Mq5 V Mq6 V Mq7 V Mr0 V Mr1 V Mr2 2X",
    "M64g.qh M64h.qh M64i.qh M64j.qh M64k.qh M64l.qh M64m.qh M64n.qh M64g.qh M64h.qh M64i.qh",
    "M64j.qh M64k.qh M64l.qh M64m.qh M64n.qh M65c.qh M65d.qh M65e.qh M65f.qh M65g.qh M65h.qh",
    "M65i.qh M65j.qh M65c.qh M65d.qh M65e.qh M65f.qh M65g.qh M65h.qh M65i.qh M65j.qh M674.qh",
    "M675.qh M676.qh M677.qh M678.qh M679.qh M67a.qh M67b.qh M674.qh M675.qh M676.qh M677.qh",
    "M678.qh M679.qh M67a.qh M67b.qh 2V M67k.qh Mq9.qh Mq4.qh X V M69i.qh 2S69c M67k Mq4",
    "Mq9.qh Mw.lv Mqh Mw.lv Mw.n6 Mw.lk.n6 M67o.qh Mqf.qh Mq6.qh X V M69y.qh M67m Mq5 M67o",
    "Mq6 Mqf.qh Mw.lv.lc Mw.lv.ld Mw.lv.n6 3V Mpc 2X 2V 2S6a8 M67q Mq7 X Mw.lw.lc Mw.lw.ld",
    "Mw.lw.n6 3V Mq8 4V 2S6ao M67u Mr1 M6at Mw.lk.lc Mw.lk.ld M2o 2X M67w.qh Mqx.qh Mr2.qh X",
    "V M6ba.qh M67s Mr0 M67w Mr2 Mqx.qh Mw.ld Mw.lw X bMw I 2V 2X V M6c0 5V Mw.mr cV 3X V 7X",
    "Mw 3V M6cy.6cy M6cy.6cy.6cy V M6d1.6d1 M6d1.6d1.6d1 4V Mx.x V Mw.lh 8V M1r.1r M1r.x",
    "Mx.1r dV M6cy.6cy.6cy.6cy 7V Mw 5I 5X 6I M1c M2x 2X 6S1g M17 M6qa M1p 2S14 M32 aS1c M17",
    "M6qa M1p 2S14 X M2p M2t M33 M3c Mgp M2w 4S2z M34 2S37 3X 8V M36.37 pV eX xV fX M2p.1b.2r",
    "M2p.1b.37 M2r M4w.2r V M2r.1b.33 M2r.1b.39 Mgr V M4w.2u 2S2v 3M2w M87 2M2x 2M30 V M32",
    "M32.33 2V 3S34 2M36 2V M37.31 M38.2t.30 M38.31 V M3e V Mqx V M3e V M2z M6d 2S2q V 2M2t",
    "M2u M6ku M31 M33 4S15c M2x V M2u.2p.3c Mqo 2Mqb Mqo M6q9 4V 2M2s M2t 2S2x 6V M1d.6dg.1j",
    "M1d.6dg.1l M1d.6dg.1d.1c M1d.6dg.1f M1e.6dg.1f M1d.6dg.1h M1e.6dg.1h M1f.6dg.1h",
    "M1g.6dg.1h M1d.6dg.1i M1h.6dg.1i M1d.6dg.1k M1f.6dg.1k M1h.6dg.1k M1j.6dg.1k M1d.6dg M2x",
    "M2x.2x M2x.2x.2x M2x.3a M3a M3a.2x M3a.2x.2x M3a.2x.2x.2x M2x.3c M3c M3c.2x M3c.2x.2x",
    "M30 2S2r M31 M2x M2x.2x M2x.2x.2x M2x.3a M3a M3a.2x M3a.2x.2x M3a.2x.2x.2x M2x.3c M3c",
    "M3c.2x M3c.2x.2x M30 2S2r M31 3V M6mc 5V M1c.6dg.1f 2V 4X 4cV M6qz.6qz M6qz.6qz.6qz V",
    "M6r2.6r2 M6r2.6r2.6r2 6wV 2S9hk 73V mX bV lX 9S1d M1d.1c M1d.1d M1d.1e M1d.1f M1d.1g",
    "M1d.1h M1d.1i M1d.1j M1d.1k M1d.1l M1e.1c M14.1d.15 M14.1e.15 M14.1f.15 M14.1g.15",
    "M14.1h.15 M14.1i.15 M14.1j.15 M14.1k.15 M14.1l.15 M14.1d.1c.15 M14.1d.1d.15 M14.1d.1e.15",
    "M14.1d.1f.15 M14.1d.1g.15 M14.1d.1h.15 M14.1d.1i.15 M14.1d.1j.15 M14.1d.1k.15",
    "M14.1d.1l.15 M14.1e.1c.15 kX M14.2p.15 M14.2q.15 M14.2r.15 M14.2s.15 M14.2t.15 M14.2u.15",
    "M14.2v.15 M14.2w.15 M14.2x.15 M14.2y.15 M14.2z.15 M14.30.15 M14.31.15 M14.32.15",
    "M14.33.15 M14.34.15 M14.35.15 M14.36.15 M14.37.15 M14.38.15 M14.39.15 M14.3a.15",
    "M14.3b.15 M14.3c.15 M14.3d.15 M14.3e.15 qS2p qS2p M1c 10hV M6qz.6qz.6qz.6qz 2vV",
    "M1m.1m.1p M1p.1p M1p.1p.1p 2tV M8gt.mw 47V 2X 3uV 1cS8q8 1cV M8rl V Mh7 M5tp Mhp 2V 6P",
    "Mgh Mhd Mgg Mgi V M8s3 2V M8s6 6V M2y M3a 2Sfz 2sP 7V 4P 3V M8vn V 5X 19V X V 5X V 2X",
    "1kV 7X M8yp V eX oV 9X 7V X 7V X 7V X 7V X 7V X 7V X 7V X 7V X 3iV yX qV X 4V Mlal 2bV",
    "Mvj3 cX Mfeo Mffs Mfg6 Mfgf Mfh5 Mfid Mfik Mfj4 Mfju Mg1r Mg2t Mg2z Mg3m Mg46 Mg4r Mg68",
    "Mg6t Mg74 Mgbf Mge1 Mget Mgey Mgfs Mgg1 Mggs Mgh5 Mghu Mgja Mgjs Mgkj Mh5j Mh7j Mhkb",
    "Mhky Mhl6 Mhlh Mhlz Mho3 Mi1c Mi2o Mi60 Mi6n Mi76 Mi7s Mi9a Mi9d Mijf Mijp Mik1 Mike",
    "Minm Minu Minz Mir8 Miri Mirv Mis3 Mits Miu9 Miur Miwz Mjd4 Mjee Mjez Mjzj Mjzo Mk1z",
    "Mk2f Mk2s Mk3d Mk4g Mk4l Mkc0 Mkco Mkdk Ml5s Ml7m Ml89 Ml9v Mlaj Mlas Mlaz Mlcf Mlck",
    "Mldg Mm7f Mmju Mmk6 Mmkb Mmkf Mmkn Mml5 Mml7 Mmng Mmtg Mmtl Mn30 Mn3a Mn4o Mn4v Mn54",
    "Mn5c Mn7v Mn82 Mnee Mnel Mnfy Mngf Mnhq Mnob Mnoi Mnoz Mny2 Mo1k Mo1q Mo6s Mo97 Moah",
    "Mokz Mooo Mp4m Mp5d Mp6y Mp8d Mpa9 Mpak Mpaq Mpbn Mpdr Mpe1 Mpnn Mpnu Mpo3 Mpoc Mpos",
    "Mpp7 Mppb Mpri Mprm Mprs Mqj1 Mqjv Mqww Mqx8 Mqxv Mr5q Mr63 Mr82 Mr9c Mrp3 Mrpi Mrpx",
    "Mrqw Mrrx Mrxg Mrxs Mrzn Ms6j Ms7e Msd7 Msds Msdx Msk1 Msp5 Mssm Msss Mssx Mtiv Mtj4",
    "Mtng Mtrq Mtrt Mtt4 Mtw1 Mtwe Mtwi Mtwp Mtzf Mu0d Mu0j Mu0x Mu5k Mu6z Mu73 Muc6 Muc9",
    "Mucs Mujs Mul4 Mulb Mun9 Munj Munm Munw Muoq Muzp Mvat Mvb3 Mvc5 Mvcr Mvcz Mvd9 Mvdd",
    "Mveh Mvel Mvf2 Mvf7 Mvfk Mvgb Mvgq Mvgy Mvil Mvj0 Mvj4 16X Mw V M1a 1fV M9hu V Mgg1",
    "2Sgg4 5V X 2eV 2X 2V Mw.9ll Mw.9lm 2V M9l4.9l6 2nV M9mb.9mw 5X 17V X 2S3cw M3hm M3cy",
    "2S3ho 3S3cz 6S3hs M3dm 3S3d2 M3dt aS3d5 lS3fl I 2S3dg 2S3if M3ik M3im M3ir M3iv M3ix",
    "M3do M3j1 M3j3 2S3dp M3ds 2S3du M3dz M3e1 5S3e3 M3ea M3ee M3eo M3ev M3f0 2S3jl 3S3fb",
    "2S3gk M3go 2S3gx M3h0 M3ha M3hd X 2V Mfeo Mfik Mfex Mh5n Mfey Mffx Mfez Mn5e Mfh5 Mffd",
    "Mfep Mhm1 Mh80 Mfju 1yV aX gV M14.3cw.15 M14.3cy.15 M14.3cz.15 M14.3d1.15 M14.3d2.15",
    "M14.3d3.15 M14.3d5.15 M14.3d7.15 M14.3d8.15 M14.3da.15 M14.3db.15 M14.3dc.15 M14.3dd.15",
    "M14.3de.15 M14.xz4.15 M14.yvs.15 M14.zc4.15 M14.108s.15 M14.10p4.15 M14.115g.15",
    "M14.1224.15 M14.12ys.15 M14.13f4.15 M14.14bs.15 M14.14s4.15 M14.158g.15 M14.15os.15",
    "M14.1654.15 M14.13p8.15 M14.1350.13ic.15 M14.1350.16f8.15 X M14.feo.15 M14.fik.15",
    "M14.fex.15 M14.h5n.15 M14.fis.15 M14.g31.15 M14.fer.15 M14.g2z.15 M14.fh9.15 M14.gg1.15",
    "M14.kco.15 M14.m7f.15 M14.ldg.15 M14.kdk.15 M14.ssx.15 M14.h7j.15 M14.k4l.15 M14.kkq.15",
    "M14.kcp.15 M14.ny6.15 M14.glp.15 M14.mm1.15 M14.rs1.15 M14.nz1.15 M14.gc4.15 M14.fkz.15",
    "M14.gos.15 M14.i1y.15 M14.nhf.15 M14.flt.15 M14.rt3.15 M14.ggk.15 M14.nzh.15 M14.fm9.15",
    "M14.pnu.15 M14.po3.15 Mgun Minw Mk1z Moen 8V M34.38.2t M1e.1d M1e.1e M1e.1f M1e.1g",
    "M1e.1h M1e.1i M1e.1j M1e.1k M1e.1l M1f.1c M1f.1d M1f.1e M1f.1f M1f.1g M1f.1h M3cw 2S3cy",
    "3S3d1 M3d5 2S3d7 5S3da Mxz4 Myvs Mzc4 M108s M10p4 M115g M1224 M12ys M13f4 M14bs M14s4",
    "M158g M15os M1654 M14c8.y5c M13p8.13dk M138w V Mfeo Mfik Mfex Mh5n Mfis Mg31 Mfer Mg2z",
    "Mfh9 Mgg1 Mkco Mm7f Mldg Mkdk Mssx Mh7j Mk4l Mkkq Mkcp Mny6 Mglp Mmm1 Mrs1 Mnz1 Mgc4",
    "Mo2g Mn5j Mho3 Msix Mg16 Mghc Mlig Mu11 Mfm9 Mg49 Ml7n Mfey Mffx Mfez Mijq Mgkz Mgfv",
    "Mi3b Mi1y Mnhf Mflt Mrt3 Mggk Mhlo M1f.1i M1f.1j M1f.1k M1f.1l M1g.1c M1g.1d M1g.1e",
    "M1g.1f M1g.1g M1g.1h M1g.1i M1g.1j M1g.1k M1g.1l M1h.1c M1d.kco M1e.kco M1f.kco M1g.kco",
    "M1h.kco M1i.kco M1j.kco M1k.kco M1l.kco M1d.1c.kco M1d.1d.kco M1d.1e.kco M2w.2v",
    "M2t.36.2v M2t.3a M30.38.2s M9lu M9lw M9ly M9m0 2S9m2 M9m5 M9m7 M9m9 M9mb M9md M9mf M9mh",
    "M9mj M9ml M9mn M9mp M9ms M9mu M9mw 6S9my M9n6 M9n9 M9nc M9nf 5S9ni M9no M9nq 6S9ns 4S9nz",
    "Mfl0.gp8 M9lu.9n5.9oc.9mw M9lu.9nv.9n9.9lt M9lu.9o3.9ne.9lu M9lu.9oc.9nv",
    "M9lw.9mz.9o3.9m8 M9lw.9o3.9mp M9ly.9m1.9o3 M9m0.9mh.9m7.9oc.9mx M9m0.9oc.9m3.9oc",
    "M9m2.9o3.9mh M9m2.9oc.9nk M9m3.9lw.9nu M9m3.9nt.9mr.9mw M9m3.9nx.9nu.9oc M9m4.9nx.9o3",
    "M9m4.9o3.9ni M9m6.9m4 M9m6.9mz.9oc M9m5.9np.9nu.9oc M9m6.9nv.9mo.9oc M9m5.9nx",
    "M9m5.9nx.9m8.9nt.9nk M9m5.9nx.9nl.9oc.9mw.9nv M9m5.9nx.9nz.9mr.9mw M9m8.9nt.9nk",
    "M9m8.9nt.9nk.9mw.9o3 M9m7.9nv.9mk.9lw.9nx M9m7.9nx.9oc.9n1 M9m9.9oc.9mh M9mb.9nv.9my",
    "M9mb.9oc.9nh M9md.9lw.9m7.9nv M9md.9o3.9mp.9oc.9nk M9mf.9nu.9o3.9m8 M9mj.9o3.9mp",
    "M9mj.9o3.9mw M9mo.9oc.9mh M9mv.9mf M9mx.9nv M9mw.9o3 M9my.9n2 M9n2.9mr.9mw M9n3.9lw.9ms",
    "M9n5.9oc.9mj.9o3.9mw M9n5.9oc.9ms M9n4.9oc.9nw.9nv M9n8.9lu.9mh.9mw.9nv M9n8.9m7.9nv",
    "M9n8.9mb M9n7.9nv M9n9.9lt.9nt.9mr.9mx M9n9.9lv.9oc.9mw M9na.9mr.9mf.9lz.9nv",
    "M9n9.9nt.9o3 M9nc.9m7.9mn.9oc.9nv M9ne.9ml M9ne.9mz.9n6 M9nc.9nv.9ms M9ne.9o3.9mh",
    "M9ne.9oc.9mg M9nd.9oc.9mn M9nh.9lw.9o3.9mw M9ng.9nv.9mw M9nf.9o3 M9nh.9o3.9mx",
    "M9nf.9oc.9nv M9nf.9oc.9o3 M9ni.9lw.9m7.9nx M9ni.9lw.9nv M9ni.9mr.9n3 M9ni.9nv.9m7",
    "M9ni.9o3.9mf.9nr.9o3 M9nj.9m7.9nx.9o3 M9nj.9nu M9nj.9nu.9n4.9oc.9nv M9nl.9m4",
    "M9nl.9m4.9mw.9o3 M9nl.9oc.9mw.9nv M9no.9oc.9mx M9no.9oc.9nv M9nq.9lu.9o3",
    "M9nu.9mr.9mw.9nv M9nu.9nt M9nv.9n8.9oc M9nv.9oc.9na.9nv M9nw.9nk M9nw.9o3.9mw.9ma.9o3",
    "M9nz.9mr.9mw M1c.m9l M1d.m9l M1e.m9l M1f.m9l M1g.m9l M1h.m9l M1i.m9l M1j.m9l M1k.m9l",
    "M1l.m9l M1d.1c.m9l M1d.1d.m9l M1d.1e.m9l M1d.1f.m9l M1d.1g.m9l M1d.1h.m9l M1d.1i.m9l",
    "M1d.1j.m9l M1d.1k.m9l M1d.1l.m9l M1e.1c.m9l M1e.1d.m9l M1e.1e.m9l M1e.1f.m9l M1e.1g.m9l",
    "M2w.34.2p M2s.2p M2p.39 M2q.2p.36 M33.3a M34.2r M2s.31 M2s.31.1e M2s.31.1f M2x.39",
    "Minn.jdc Mk6l.gp8 Mhlz.l7n Mk5q.lh7 Mkkq.irz.fmi.ny6 M34.2p M32.2p Mqk.2p M31.2p M2z.2p",
    "M2z.2q M31.2q M2v.2q M2r.2p.30 M2z.2r.2p.30 M34.2u M32.2u Mqk.2u Mqk.2v M31.2v M2z.2v",
    "M2w.3e M2z.2w.3e M31.2w.3e M2v.2w.3e M38.2w.3e Mqk.30 M31.30 M2s.30 M2z.30 M2u.31 M32.31",
    "Mqk.31 M31.31 M2r.31 M2z.31 M31.31.1e M2r.31.1e M31.1e M2z.31.1e M31.31.1f M2r.31.1f",
    "M31.1f M2z.31.1f M31.6qd.37 M31.6qd.37.1e M34.2p M2z.34.2p M31.34.2p M2v.34.2p M36.2p.2s",
    "M36.2p.2s.6qd.37 M36.2p.2s.6qd.37.1e M34.37 M32.37 Mqk.37 M31.37 M34.3a M32.3a Mqk.3a",
    "M31.3a M2z.3a M31.3a M34.3b M32.3b Mqk.3b M31.3b M2z.3b M31.3b M2z.qx M31.qx X M2q.35",
    "M2r.2r M2r.2s M2r.6qd.2z.2v X M2s.2q M2v.3d M2w.2p M2w.34 M2x.32 M2z.2z M2z.31 M2z.38",
    "M30.31 M30.32 M30.33.2v M30.3c M31.2q M31.2x.30 M31.33.30 M34.2w X M34.34.31 M34.36",
    "M37.36 M37.3a M3b.2q M3a.6qd.31 M2p.6qd.31 M1d.k4l M1e.k4l M1f.k4l M1g.k4l M1h.k4l",
    "M1i.k4l M1j.k4l M1k.k4l M1l.k4l M1d.1c.k4l M1d.1d.k4l M1d.1e.k4l M1d.1f.k4l M1d.1g.k4l",
    "M1d.1h.k4l M1d.1i.k4l M1d.1j.k4l M1d.1k.k4l M1d.1l.k4l M1e.1c.k4l M1e.1d.k4l M1e.1e.k4l",
    "M1e.1f.k4l M1e.1g.k4l M1e.1h.k4l M1e.1i.k4l M1e.1j.k4l M1e.1k.k4l M1e.1l.k4l M1f.1c.k4l",
    "M1f.1d.k4l M2v.2p.30 m8dV 3X 1jV 9X 9oV kX 1aP iV sP Mui Muk 2iV 8X yV eP 2V 1qP Mx2n 8V",
    "4P M5tl aP 3V Mx3g V Mh1 2V 4P 2V kP Mh2 Mgs Mgx Mh8 Mh6 V Mim Mhz Mil Mxub gP Mx3o Mhu",
    "M5u6 4P Mh0 gP Mbf kX M37 M2r M2u M35 Mx6e 2V M87 M9f 1fV 3X aV 6X 1kV 8X 1yV 8X cV 6X",
    "38V bX uV 3X 26V X bV 4X xV X 1jV 9X eV 2X aV 2X 2vV oX sV aX 6V 2X 6V 2X 6V 9X 7V X 7V",
    "X 18V Mx0n Mxtj Mh7 Mxua 9V Mi5 2V 4X 28S3vk 1aV 2X aV 6X 8mcV cX nV 4X 1dV 6isX Mrpk",
    "Mkc4 Ms7e Mrt4 Mlw1 Mfg2 Mgkl 2Mvj0 Mhn5 Mssx Mgw7 Mhmw Mjcm Mne1 Mp6t Mqin Mqt6 Mr20",
    "Msjz Mkxu Mljv Mmah Mmvy Mq4d Msq2 Muep Mfia Mghh Ml50 Mmjf Mqi5 Mv8e Mifk Mm3v Mqfh",
    "Mr50 Mjih Mpnc Mqvz Miq2 Mkd3 Mlm2 Mmpo Mslq Mfpi Mg53 Mgda Mjwk Ml3n Mmj4 Mnhj Mpa9",
    "Mqh2 Mqjg Ms1b Mtv6 Mupb Mv7e Mnt8 Mnzz Motc Mq15 Mt1g Mvb3 Mrfa Mhjz Miro Mokg Mpdq",
    "Mmle Mnuy Mrsy Mttj Mhjs Mi8y Mkyb Mlp6 Mlxr Moq7 Moxj Mtor Mgcy Mpe3 Mg64 Mg5o Mo4c",
    "Mou6 Mq29 Mtpx Mrk0 Mjin Mkxu Mrge Mfg9 Mi5j Miz6 Mmtj Mn74 Mgev Mnwb Mfr3 Miw9 Mff1",
    "Mlho Mk1k Mopu Mgjn Mhge Mni9 Mq4p Mre2 Mla2 Msds Mlfs Mjjy Mput Mjog Mn6t Mfji Mg2x",
    "Mg5l Mkn5 Moo7 Mprj Mrf6 Mssv Mgdx Mgn6 Mho3 Mir0 Mk3p Mm4e Mnxm Mtkd Mui2 Mvbr Mvda",
    "Mgbf Mkau Ml87 Msbm Mino Mj9s Mjcw Mjve Mlyb Mmdl Mn0p Mo22 Movo Mpdb Ms9y Mq9a Msgz",
    "Mt3e Mg7r Mgbn Mgql Mma0 Mr0i Mre2 Miq1 Miyd Mjnf Ml9q Moji Mmt1 Mfl0 Mh6h Mi5j Miii",
    "Mizg Mmuq Mmzt Mp7e Mpc6 Msvo Mtti Mtvs Mu1k Mfpn Mo1a Mss4 Mtrs Mj4x Mfie Mfyy Mi5q",
    "Mi7z Mk2h Mkxu Mmha Mncy Mq9o Msjg Mvil Mk94 Mtny Mgax Mkfv Mkj7 Mlkx Mluk Mmx5 Mn6h",
    "Mnsb Mopc Mu3i Mg31 Mje6 Mtq0 Mfu3 Mie1 Mlpm Msa2 Mivf Mj7o Mkk7 Mmtj Mtqe Mg89 Mglr",
    "Mi91 Mk5v Mkem Mko8 Mlid Mmx2 Mnaa Mp6h Mr0v Mr1d Msss Mtsy Mgfz Mlve Mgm5 Mmhc Mn14",
    "Mqgq Mtr7 Muvr Mvbz Mkgn Mlor Mpns Mo97 Mobk Molu Mmo0 Mm8p Mriw Mfk0 Mpx2 Mg8q Mg7b",
    "Mip2 Mjir Monq Mi2t Mljy Mkac Msaj Mqx8 Mtot Mr63 Miqb Mg1s Mgxs 2V Mhga V Mk8k 2V Mg66",
    "Mmqy Mngq Mny4 Mnz2 Mnz9 Mo0f Mtw6 Mon2 Mp8d V Mqhe V Mrg8 2V Mshk Msn1 3V Mu7j Mu7w",
    "Mu94 Mv5g Msm6 Mtrr Mfqm Mfzb Mg25 Mgcp Mgdg Mggh Mgwt Mgzq Mh2g Mhfk Mhig Mi90 Mi9a",
    "Mj2s Mj8o Mj9q Mjci Mk0f Mk4i Mk9d Mkn9 Mlmf Mlqy Mlya Mmem Mmjv Mmxu Mntd Mny6 Mnyh",
    "Mnyg Mnyo Mnyu Mnz1 2So0d Mo5c Mo75 Mog0 Movo Mow9 Moxt Mp6a Mpad Mpnx 2Mprt Mq53 Mr2o",
    "Mr6e Mrgh Mri1 Mrtf Mruw Msdy Mshk Mtsz Mu0v Mu2j Mj1x M36cu Mpp4 2X Mffq Mg51 Mg2w Mfpc",
    "Mg1x Mg3k Mgcn Mge2 Mgwt Mgut Mgwp Mgyq Mhga Mhir Mhms Mhn8 Mhuq Mi08 Miqa Miqh Miuh",
    "Miwd Mj4o Mj7y Mj60 Mj9q Mj8g Mjci Mjec Mjpg Mjrw Mjte Mk0m Mk8k Mkd3 Mkd7 Mkeu Ml89",
    "Mla2 Mlkx Mlwb Mlvv Mlya Mm5a Mmem Mnmv Mmk5 Mmnj Mmqy Mn01 Mn46 Mn5n Mnbx Mnbz Mngq",
    "Mnh7 Mnhw Mnka Mnk0 Mnv0 Mo8h Mog0 Mol7 Morf Movo Mp4u Mpad Mpxu Mq27 Mqrd Mr41 Mr5y",
    "Mr6e Mren Mrg8 Mrez Mrgh Mrge Mrfx Mri1 Mrka Mruw Msag Msj6 Msrd Msxi Mtq4 Mtsz Mtw6",
    "Mtzv Mu0v Mu17 Mu2j Mumq Mvj0 M313e M3138 M33dh Mbrx Mcns Mcop M39e1 M3bgw M3i6r Mvgj",
    "Mvim 12X M2u.2u M2u.2x M2u.30 M2u.2u.2x M2u.2u.30 2M37.38 cX M12s.12u M12s.12d M12s.12j",
    "M132.12u M12s.12l 5X M15l.14k V M16a.14n M15u M15c 2S15f 3S15n M160 M162 M17 M161.14x",
    "M161.14y M161.14s.14x M161.14s.14y M15c.14n M15c.14o M15c.14s M15d.14s M15e.14s M15f.14s",
    "M15g.14s M15h.14s M15i.14s X M15k.14s M15l.14s M15m.14s M15n.14s M15o.14s X M15q.14s X",
    "M15s.14s M15t.14s X M15v.14s M15w.14s X M15y.14s M15z.14s M160.14s M161.14s M162.14s",
    "M15h.14p M15d.14v M15n.14v M15w.14v M15c.15o 2M19t 4M1a3 4M1a6 4M1a8 4M1a2 4M1a7 4M1a1",
    "4M1b8 4M1ba 4M1ac 4M1ab 4M1ae 4M1af 2M1al 2M1ak 2M1am 2M1ag 2M1aw 2M1ap 4M1bd 4M1bj",
    "4M1bn 4M1bl 2M1bu 4M1bv 2M1c0 4M1c1 4M1by 2M1ci 2M1cj xV 4M1bh 2M1c7 2M1c6 2M1c8",
    "M1c7.19w 2M1cb 2M1c5 2M1c9 4M1cg 2M18p 2M17q.17r 2M17q.1cl 2M17q.18o 2M17q.1c7 2M17q.1c6",
    "2M17q.1c8 3M17q.1cg 3M17q.18p 4M1cc M17q.17w M17q.17x M17q.18l M17q.18p M17q.18q",
    "M17s.17w M17s.17x M17s.17y M17s.18l M17s.18p M17s.18q M17u.17w M17u.17x M17u.17y",
    "M17u.18l M17u.18p M17u.18q M17v.17w M17v.18l M17v.18p M17v.18q M17w.17x M17w.18l",
    "M17x.17w M17x.18l M17y.17w M17y.17x M17y.18l M183.17w M183.17x M183.17y M183.18l",
    "M185.17x M185.18l M186.17w M186.17x M186.17y M186.18l M187.17x M187.18l M188.18l",
    "M189.17w M189.18l M18a.17w M18a.18l M18h.17w M18h.17x M18h.17y M18h.18l M18h.18p",
    "M18h.18q M18i.17x M18i.18l M18i.18p M18i.18q M18j.17r M18j.17w M18j.17x M18j.17y",
    "M18j.18k M18j.18l M18j.18p M18j.18q M18k.17w M18k.17x M18k.17y M18k.18l M18k.18p",
    "M18k.18q M18l.17w M18l.17x M18l.17y M18l.18l M18l.18p M18l.18q M18m.17w M18m.17x",
    "M18m.17y M18m.18l M18m.18p M18m.18q M18n.17w M18n.18l M18n.18p M18n.18q M18q.17w",
    "M18q.17x M18q.17y M18q.18l M18q.18p M18q.18q M180.19s M181.19s M18p.19s Mw.18s.18x",
    "Mw.18t.18x Mw.18u.18x Mw.18v.18x Mw.18w.18x Mw.18x.19s M17q.181 M17q.182 M17q.18l",
    "M17q.18m M17q.18p M17q.18q M17s.181 M17s.182 M17s.18l M17s.18m M17s.18p M17s.18q",
    "M17u.181 M17u.182 M17u.18l M17u.18m M17u.18p M17u.18q M17v.181 M17v.182 M17v.18l",
    "M17v.18m M17v.18p M17v.18q M18h.18p M18h.18q M18i.18p M18i.18q M18j.17r M18j.18k",
    "M18j.18l M18j.18p M18j.18q M18k.18l M18k.18p M18k.18q M18l.17r M18l.18l M18m.181",
    "M18m.182 M18m.18l M18m.18m M18m.18p M18m.18q M18p.19s M18q.181 M18q.182 M18q.18l",
    "M18q.18m M18q.18p M18q.18q M17q.17w M17q.17x M17q.17y M17q.18l M17q.18n M17s.17w",
    "M17s.17x M17s.17y M17s.18l M17s.18n M17u.17w M17u.17x M17u.17y M17u.18l M17u.18n",
    "M17v.18l M17w.17x M17w.18l M17x.17w M17x.18l M17y.17w M17y.18l M183.17w M183.17x",
    "M183.17y M183.18l M185.17x M185.17y M185.18l M186.17w M186.17x M186.17y M186.18l",
    "M187.17x M188.18l M189.17w M189.18l M18a.17w M18a.18l M18h.17w M18h.17x M18h.17y",
    "M18h.18l M18i.17x M18i.18l M18j.17w M18j.17x M18j.17y M18j.18k M18j.18l M18k.17w",
    "M18k.17x M18k.17y M18k.18l M18k.18n M18l.17w M18l.17x M18l.17y M18l.18l M18m.17w",
    "M18m.17x M18m.17y M18m.18l M18m.18n M18n.17w M18n.18l M18n.19s M18q.17w M18q.17x",
    "M18q.17y M18q.18l M18q.18n M17q.18l M17q.18n M17s.18l M17s.18n M17u.18l M17u.18n",
    "M17v.18l M17v.18n M183.18l M183.18n M184.18l M184.18n M18j.18k M18j.18l M18k.18l",
    "M18m.18l M18m.18n M18q.18l M18q.18n M18g.18u.18x M18g.18v.18x M18g.18w.18x M187.18p",
    "M187.18q M189.18p M189.18q M18a.18p M18a.18q M183.18p M183.18q M184.18p M184.18q",
    "M17x.18p M17x.18q M17w.18p M17w.18q M17y.18p M17y.18q M185.18p M185.18q M186.18p",
    "M186.18q M184.17w M184.17x M184.17y M184.18l M184.181 M183.181 M185.181 M186.181",
    "M187.18p M187.18q M189.18p M189.18q M18a.18p M18a.18q M183.18p M183.18q M184.18p",
    "M184.18q M17x.18p M17x.18q M17w.18p M17w.18q M17y.18p M17y.18q M185.18p M185.18q",
    "M186.18p M186.18q M184.17w M184.17x M184.17y M184.18l M184.181 M183.181 M185.181",
    "M186.181 M184.17w M184.17x M184.17y M184.18l M183.18n M184.18n M187.18l M183.17w",
    "M183.17x M183.17y M184.17w M184.17x M184.17y M187.18l M188.18l 2M17r.18r iV M17u.17w.18l",
    "2M17u.17x.17w M17u.17x.18l M17u.17y.18l M17u.18l.17w M17u.18l.17x M17u.18l.17y",
    "2M17w.18l.17x M17x.18l.18q M17x.18l.18p M183.17x.17w M183.17w.17x M183.17w.18p",
    "2M183.18l.17x M183.18l.17w 2M183.18l.18l 2M185.17x.17x M185.18l.18l 2M184.17x.18l",
    "M184.17w.18q 2M184.18l.17y 2M184.18l.18l M186.17x.18p 2M186.17y.18l 2M187.18l.17x",
    "M187.18l.18l M187.18l.18q M189.17w.18l 2M189.18l.18l M189.18l.18p M18a.18l.18l",
    "M18a.18l.18q M18a.18l.18p 2M18h.17y.18l M18i.18l.17x M18i.18l.18l M18k.17x.18l",
    "M18k.17x.18q M18k.17x.18p 2M18k.17w.17w 2M18k.17y.18l 2M18k.18l.17x M18l.17x.17w",
    "M18l.17x.18l M18l.17x.18q M18l.17w.17x M18l.17w.18l M18l.17y.17w M18l.17y.18l 2V",
    "M18l.17w.17y M18n.18l.17w M18n.18l.18l M18m.17x.18l M18m.17x.18p 2M18m.17w.18l",
    "M18m.17w.18p M18m.18l.18q M18m.18l.18p 2M18q.18l.18l M17s.17y.18q M17u.17w.18q",
    "M17u.17w.18p M17u.17y.18q M17u.17y.18p M17u.18l.18q M17u.18l.18p M17w.18l.18q",
    "M17w.17x.18p M17w.18l.18p M183.17y.18p M185.17x.18q M184.17x.18q M186.17x.18q",
    "M18k.17w.18q M18k.18l.18q M18q.17x.18q M18q.17w.18q M18q.18l.18q M18l.18l.18q",
    "M18i.18l.18q M18m.17x.18q M18i.18l.17x M18k.17x.18l M189.18l.18q M18j.18l.18q",
    "M18m.17w.17x M18l.17y.18q M18k.17w.18l M18j.18l.18l M18k.17w.18l M18m.17w.17x",
    "M17w.17x.18q M17x.17w.18q M18l.17w.18q M18h.18l.18q M17s.17x.18q M18j.18l.18l",
    "M189.17w.18l M185.18l.18l M183.17y.18q M18m.17w.18q 8V wX M185.18k.1ci M18i.18k.1ci",
    "M17r.18k.18k.18n M17r.18j.17s.181 M18l.17x.18l.17z M185.18k.189.18l M181.183.18o.18k",
    "M189.18k.18q.18n M18o.183.18k.18l M185.18k.18p",
    "M185.18k.18p.w.17r.18k.18k.18n.w.189.18k.18q.18n.w.18o.183.18k.18l",
    "M17w.18k.w.17w.18k.17r.18k.18n M181.1cc.17r.18k 3V gI M18 M9hd X 2S1m Mx M1r 2S9hy 7X gV",
    "X M6c4 M6c3 2M2n 2S14 M3f M3h 2S9hw 2S9hs 2S9hm 2S9hk 4S9ho 2V M2j M2l 4Mw.lh 3M2n M18",
    "M9hd 2X M1n M1m M1r Mx M6c4 2S14 M3f M3h 2S9hw Mz M12 2S16 M19 M1o M1q M1p X M2k 2S10",
    "M1s 4X Mw.18r M18g.18r Mw.18s V Mw.18t X Mw.18u M18g.18u Mw.18v M18g.18v Mw.18w M18g.18w",
    "Mw.18x M18g.18x Mw.18y M18g.18y 2S17l 2S17m 2S17n 2S17o 2S17p 3M17q 2M17r 4M17s 2M17t",
    "4M17u 4M17v 4M17w 4M17x 4M17y 2M17z 2M180 2M181 2M182 4M183 4M184 4M185 4M186 4M187",
    "4M188 4M189 4M18a 4M18h 4M18i 4M18j 4M18k 4M18l 4M18m 4M18n 2M18o 2M18p 4M18q 2M18k.17m",
    "2M18k.17n 2M18k.17p 2M18k.17r 2X I X wSx qS2p 10S2j 2S879 M1a 2S9ho M9hd M9ob M9o2 M9lt",
    "M9lv M9lx M9lz M9m1 M9nn M9np M9nr M9mr M9oc M9lu M9lw M9ly M9m0 2S9m2 M9m5 M9m7 M9m9",
    "M9mb M9md M9mf M9mh M9mj M9ml M9mn M9mp M9ms M9mu M9mw 6S9my M9n6 M9n9 M9nc M9nf 5S9ni",
    "M9no M9nq 6S9ns M9nz M9o3 2S9ll I 2S3cw M3hm M3cy 2S3ho 3S3cz 6S3hs M3dm 3S3d2 M3dt",
    "aS3d5 3X 6S3fl 2X 6S3fr 2X 6S3fx 2X 3S3g3 3X 2S4i M4s Mw.lg M4m M4l M6g9 X M7b6 4S6mo",
    "M7fk M7gr hX cV X qV X jV X 2V X fV 2X eV yX 3fV 5X 3V 4X 19V 3X 2gV X dV 3X V 1bX 1aV",
    "3mX tV 3X 1dV fX sV 4X 10V 9X uV 5X 17V 5X uV X 11V 4X eV 16X 14S1fe0 3aV 2X aV 6X",
    "10S1fiw 4X 10V 4X 14V 8X 1gV bX V bS1fo7 X fS1foj X 7S1foz X 2S1fp7 X bV X fV X 7V X 2V",
    "3X 1gV cX 8nV 9X mV aX 8V oX V 2Sk0 M6e Mih Mgj X Mir Mxuu Mit Mis 2Sgm M5u9 Mgo Mgu Mix",
    "Mh0 Mgy Mgw Mij M87 Mik Mh3 Mhw 2Siy Mh8 M2mmc Mx3i Mha M2mmd Mi6 M2mme M6w 2Shi M35 Mhm",
    "M2mmg 2Shp Mhs Miw Miu Mxuv Miv Mi0 M8s1 X Mi7 2Sip Mig 3Scg M2mmi M2mn2 1xX 6V 2X V X",
    "18V X 2V 3X V 2X nV X 20V 8X 9V 1cX jV X 2V 5X xV 3X rV 5X rV 12X 1kV 4X kV 2X 1eV X 2V",
    "5X 8V X 3V X tV 2X 3V 4X aV 7X 9V 7X 1sV wX 13V 4X cV 9X 1iV 3X tV 2X rV 5X qV 7X 4V cX",
    "7V 28X 21V 1jX 1fS1h34 dX 1fV 7X 1aV 8X aV 6X gV mS1h80 3X tV 8X 2V 5sX vV X 16V X 3V 2X",
    "2V gX 6V 8X 9V xX 1aV 8X 16V mX qV 12X sV kX nV 9X 26V 4X 10V 9X 1qV X 5V dX pV 7X aV 6X",
    "1hV X iV 8X 13V 9X 2oV X kV bX iV X 1bV 1qX 7V X V X 4V X fV X bV 6X 1nV 5X aV 6X 4V X",
    "8V 2X 2V 2X mV X 7V X 2V X 5V X aV 2X 2V 2X 3V 2X V 6X V 5X 7V 2X 7V 3X 5V bX aV X V 2X",
    "V X 12V X aV X V 2X V X 4V X aV X 2V 8X 2V tX 2kV X 5V uX 20V 8X aV 4mX 1iV 2X 12V yX",
    "1xV bX aV 6X dV jX 1mV 6X aV 6X kV sX rV 2X fV 4X nV 55X 1oV 2sX wS1jgg 1fV cX 8V 2X V",
    "2X 8V X 2V X uV X 2V 2X cV 9X aV 1yX 8V 2X 1aV 2X bV rX 20V 8X 2bV dX 21V 7X aV 2eX 8V",
    "2gX yV eX aV 6X 9V X 19V X eV aX tV 3X wV 2X mV X eV 21X 7V X 2V X 18V 3X V X 2V X 9V 8X",
    "aV 6X 6V X 2V X 11V X 2V X 6V 7X aV 6X 18V 4X aV 6uX pV 7X hV X 15V 3X tV 2dX V fX 1eV",
    "dX pnV 2uX 33V X 5V bX 5gV 218X 2rV dX tsV gX mV aX 32zV 5X g7V 5a1X 1mV 1c6X ftV 7X vV",
    "X aV 4X 29V X aV 6X uV 2X 6V aX 1yV aX aV X 7V X lV 5X jV c0X 1mV 5iX wS20dc 1nV 5X",
    "pS20fv 2X pV 18X 23V 4X 1lV 7X hV 1sX 5V bX 7V 9X 5p2V 15X wV 2pX 37V 6ppX 4V X 7V X 2V",
    "X 83V fX V tX 3V 2X V eX 4V 8X b0V 1s4X 2zV 5X dV 3X 9V 7X aV 2X 4V 4I 318X 5yV qS2p",
    "aS1c 3V 3X c4V 6X nV fX hV fX 1aV 2X nV 9X 38V 1oX 6uV aX 13V 2X 1hV M2jx3.2jxh",
    "M2jx4.2jxh M2jx4.2jxh.2jxq M2jx4.2jxh.2jxr M2jx4.2jxh.2jxs M2jx4.2jxh.2jxt",
    "M2jx4.2jxh.2jxu eV 8I 1sV M2jzt.2jxh M2jzu.2jxh M2jzt.2jxh.2jxq M2jzu.2jxh.2jxq",
    "M2jzt.2jxh.2jxr M2jzu.2jxh.2jxr 16V lX 1yV 3eX kV cX kV cX 2fV 9X pV 3rX qS2p qS2p qS2p",
    "7S2p X iS2x qS2p qS2p M2p X 2S2r 2X M2v 2X 2S2y 2X 4S32 X 8S37 4S2p X M2u X 7S2w X bS34",
    "qS2p qS2p 2S2p X 4S2s 2X 8S2y X 7S37 X qS2p 2S2p X 4S2s X 5S2x X M33 3X 7S37 X qS2p qS2p",
    "qS2p qS2p qS2p qS2p qS2p qS2p qS2p qS2p qS2p qS2p qS2p M8h Mfr 2X hSq9 Mqg 7Sqr M6pz",
    "hSq9 2Mqr 6Sqs M6pu Mqd Mqg Mqi Mqu Mqp Mqo hSq9 Mqg 7Sqr M6pz hSq9 2Mqr 6Sqs M6pu Mqd",
    "Mqg Mqi Mqu Mqp Mqo hSq9 Mqg 7Sqr M6pz hSq9 2Mqr 6Sqs M6pu Mqd Mqg Mqi Mqu Mqp Mqo hSq9",
    "Mqg 7Sqr M6pz hSq9 2Mqr 6Sqs M6pu Mqd Mqg Mqi Mqu Mqp Mqo hSq9 Mqg 7Sqr M6pz hSq9 2Mqr",
    "6Sqs M6pu Mqd Mqg Mqi Mqu Mqp Mqo 2Mrh 2X aS1c aS1c aS1c aS1c aS1c i4V fX 5V X fV uoX vV",
    "6X 6V 5xX 7V X hV 2X 7V X 2V X 5V 5X 9Sts 3Su2 bSu6 Muj 2Sul Mww9 Myh Muu Muw Myx Mxb",
    "My7 9Sts 2Su2 2Su6 Mu9 6Sub 2Sui Mwh Muu Mut Mv3 Mx7 Mwup Mxd xX V 34X 19V 3X eV 2X aV",
    "4X 2V 8wX vV hX 1mV 5X V cwX 16V 5yX 17V 4X V 5cX vV X mV 8X 2V 68X 7V X 4V X 2V X fV X",
    "5hV 2X gV 15X yS2oma 16V 4X aV 4X 2V ltX 1wV 24X 1pV 5eX 2S17r M17w M17z X M18o M182",
    "M17x M187 M18q 4S18j M183 M189 M18h M185 M18i M181 M184 2S17u M17y M180 M186 M188 M18a",
    "M19q M1bu M1b5 M19r X M17s M17w X M18n 2X M17x X M18q 4S18j M183 M189 M18h M185 M18i X",
    "M184 2S17u M17y X M186 X M18a 6X M17w 4X M17x X M18q X M18k X M18m M183 M189 X M185 M18i",
    "X M184 2X M17y X M186 X M18a X M1bu X M19r X M17s M17w X M18n 2X M17x M187 M18q M18j X",
    "2S18l M183 M189 M18h M185 M18i X M184 2S17u M17y X M186 M188 M18a M19q X M1b5 X 2S17r",
    "M17w M17z 2S18n M182 M17x M187 M18q X 3S18k M183 M189 M18h M185 M18i M181 M184 2S17u",
    "M17y M180 M186 M188 M18a 5X M17s M17w M17z X M18o M182 M17x M187 M18q X 3S18k M183 M189",
    "M18h M185 M18i M181 M184 2S17u M17y M180 M186 M188 M18a 1gX 2V 7iX 18V 4X 2sV cX fV 2X",
    "fV X fV X 11V bX M1c.18 M1d.18 M1e.18 M1f.18 M1g.18 M1h.18 M1i.18 M1j.18 M1k.18 M1l.18",
    "5V M14.2p.15 M14.2q.15 M14.2r.15 M14.2s.15 M14.2t.15 M14.2u.15 M14.2v.15 M14.2w.15",
    "M14.2x.15 M14.2y.15 M14.2z.15 M14.30.15 M14.31.15 M14.32.15 M14.33.15 M14.34.15",
    "M14.35.15 M14.36.15 M14.37.15 M14.38.15 M14.39.15 M14.3a.15 M14.3b.15 M14.3c.15",
    "M14.3d.15 M14.3e.15 M9hw.37.9hx M2r M36 M2r.2s M3b.3e V qS2p M2w.3a M31.3a M37.2s M37.37",
    "M34.34.3a M3b.2r qV M31.2r M31.2s M31.36 zV M2s.2y tV 1kX qV M9kr.9jf M9mb.9mb M9md dX",
    "Mjez Mi1j Mgjw M9mv Mfik Mhlm Mr8j Mhm1 Mfj8 Mk68 Mmch Mk2h Mg99 Mivg Mg3x Mk34 Mg7x",
    "Moqq Mn4v Mrs9 Mhkg Mgmx Mlxw Mjh1 Mjmd Mfeo Mfex Msi2 Mijq Mffx Mgkz Mjk7 Mrxs Mjf7",
    "Mo01 Mo6y Mglk Mlts Mkcp Mkco Mn5f Mgaa Mgxi Msp9 4X M9hw.kdo.9hx M9hw.fex.9hx",
    "M9hw.fik.9hx M9hw.i2x.9hx M9hw.m9l.9hx M9hw.jf7.9hx M9hw.nh3.9hx M9hw.gd9.9hx",
    "M9hw.k0n.9hx 7X Mivr Mgkv eX 6V 4aX rdV 3X hV 3X dV 3X 62V 6X cV 4X V fX cV 4X 1kV 8X aV",
    "6X 14V 8X uV 2X cV 4X 2V eX 9V 13X 9kV 8X eV 2X dV 3X bV 3X 1lV X V 4X gV 2X cV 4X aV 7X",
    "43V X 2kV aS1c V slX wyoV wX 3dqV 2X 4geV 2X 5rlV fX haV 1wiX Mfgd Mfg8 Mfgh M2tcy Mfog",
    "Mfqm Mfqz Mfsy Mfwa Mfx5 Mfzb Mfyn Mae6 M2ud6 Mg25 Mg2c Mg2s Mg3b M2u58 Maex Mg2v Mg3x",
    "M2u6j Mg47 Mg4k Mfkc Mg4s Mg51 M3ly7 Mg6t Mg77 Mafz Mg8r Mg92 Mgaa Mgaf Mahh Mgcn Mgcp",
    "Mgdg Mge2 2Sged Mgev Mgg9 Mggh Mggq Mghf Mghp 3Mghr M2v58 Mm7k Mgju Mgkf M2vdv Mgkr Mgkx",
    "Mgli Mgpq Mgmw Mgnc Mgo8 Mgpu Mgs6 Mgsw Mgur Mgv7 2Mgw4 Mgwp Mgx7 Mgxf Mgxu Mh7a Mgzq",
    "Mh7b Mh1t Mh2s Mg7b Mhke Mhce Mhdg Mhe5 Mhaj Mhf6 Mhf5 Mhik M2x9g Mhki Mhkn Mhl2 Mhlm",
    "Mhlu Mhnm M2xm0 M2xnu Mhrg Mhsr Mht3 Mhqw Mhuu Maum Mav0 Mhzc 2Mi0u M2y88 Mi4j Mi54 Mi5j",
    "Mi5v M2yhk Mi67 Mi6e Mitv Mi76 Mayp Mi8w Mi9a Mibk Mia5 M2z1g Mif7 M2z1i Mige Migb Migs",
    "2Sijl Mb3j Mikd Milk Mim5 Mind Mb4y M2zr7 Mb5o Mipc Mipf Mipi Miq2 M3pg2 Miri 2M3035",
    "Mpoh 2Misi Mb7r M335k M3cgq Miua Miuj Mb8j Mivu Mix9 Mixj Miyh Mj29 Mbay Mba4 Mj2s M30t0",
    "Mj47 Mj7s Mj7w Mj7y Mj7w Mj96 Mj9q Mjaq Mjac Mjan Mjby Mjci Mjcm Mjdc Mjdn Mjfh Mjht",
    "Mjis Mjm8 M31n0 Mjlp Mjjw Mjmw Mjnn Mjqc M31td Mjs2 Mjph Mjop Mbhq Mju1 Mjum Mjvh Mjuf",
    "Mbjg Mk0f Mk18 M32mi Mk4j Mkc8 Mk7d Mbo9 Mk9d Mbns Mbms Mg42 Mg45 Mkcg Mk9o Mpf1 Mdeh",
    "Mkd3 Mkd7 Mkdd Mkf2 Mker M33cz Mbpl Mkje Mkg5 Mklu Mkn9 M33hp Mkni Mkkf Mkr8 Mbrx Mksi",
    "Mkv7 Mkx6 Ml2g M33xf Ml3v Mbvc Ml5t M34br Ml78 Mbwu Ml82 Ml9b 2Sla2 M34p9 M2yvf M34sa",
    "Mle6 M354s Mlhb Mlhp Mlev Mljq Mlku Mlmf Mlkx Mlm1 Mlmg Mlmt M357i Mlkk Mlrj Mlta Mc37",
    "Mlvv Mlvr M35jl Mlq1 Mm0e M35ni M35ou Mm2u Mm61 Mm5a Mm57 Mc5y Mm6i Mm7x Mm7r Mm99 M2u5h",
    "Mmdh M368z Mmfw M36i3 Mmjs Mmk5 Mmkw M36yw Mmm8 Mmmt M3779 M37dg Mmt6 Mmtn Mcdo Mmud",
    "2Mce0 Mmyv Mmzg Mn01 Mn0l Mn2i Mcgr Mn50 M386u Mn5q M389e Mn74 M2zrz Mnbk M38v5 M38vs",
    "M38zo Mcn0 Mcnc Mnhw M394j M394i M395l M396b 2Snj2 Mnj3 Mnka Mcop Mnm3 Mcp2 Mcra M39r1",
    "Mnri Mnt8 Mnv0 Mctf M3a5i Mnyu M3a8q M3a9x Mo0f Mo2z Mcvj Mo5c Mo5m Mo5r M3at8 2M3b1j",
    "Moa6 Md1e M3b8r Mog6 Mog9 Md2f M3beo Monm Md5s Moo8 Moo3 Moow M3c06 Morn Md8h Mouf Mow2",
    "Moxx Md9w M3ciw M3cjr Mdax M3cnt Mp6i M3cqm Mp79 Mpa2 Mpad M3d22 M3d43 Mpcw M3d7s Mpdc",
    "M33a7 Mded Mpf6 Mphf Mdfv Mpj2 Mhx1 M3dlz M3dmd M33bn M33bw Mpoh Mpok Msda Mdij Mpsh",
    "Mpsb Mpst Mgc3 Mptd Mptf Mptp Mpuu M3ebg Mput Mpwd Mpyb Mq0d Mpwj Mq0t Mq1z Mq53 Mpxv",
    "Mq16 Mq18 Mq1o M3eie M3eqz M3emt Mdnv Mq9d Mq9f Mqae M3g0a Mqck M3f3g Mdp9 Mdpd M3f75",
    "M3ff6 Mdpn Mqj4 Mqjg Mqjr Mqjt Mqll Mqko Mqoe Mqn6 Mqrd Mqp4 Mqqz Mqrq Mdsn Mqu9 Mqv5",
    "Mdtl Mqxs Mqxv M3giv Mr13 Mr1a Mdv9 Mr22 Maez M3gz2 M3h46 Mdz2 Mdzb Mrds Mrfx Mrka Mrpx",
    "M3hrc Mrsb Mrsx Mrvf Mrxz M3i9b M2upw Ms0b Mrzw Ms1c M2uvy Ms7o Msag M3jki M3jl9 Msk4",
    "Msmp Msnl M3ju6 Msnv Msvs 2St07 Msxo Mt89 Mt91 M3ksa Mtjf Mej9 Mtkn M3l2v Meli Mts3 Miia",
    "Mtur M3ltx M3lzu Mepa Mepi Mu00 M3mdm Mer6 M3mhi 2Mu17 Mu21 M3mpi Mu76 Meur Mu95 Mucn",
    "Mude Muf2 Mez2 M3nsg Mumq Muv4 Mv0d Mf66 Mf71 Mv3b M3owe Mf7c M3oxx M3p5a M3p8x Mvcr",
    "Mf9y Mveh Mvem Mvet Mvf3 Mvfa Mvgb M3pxc 15uX 3t7V 5X 6juV f62uX 6oI 47bkX" ]

/-- All runs, from the first character on. -/
def mappingRuns : List Run :=
  (entries mappingLines).map readRun

/-- What a rule says of the character at a place in its run. -/
def RunRule.apply (rule : RunRule) (place : Nat) : Mapping :=
  match rule with
  | .same mapping => mapping
  | .shifted first => .replaced [Char.ofNat (first + place)]
  | .paired => .kept

/-- What becomes of the character at a place behind the start of the first run. -/
def mappingAt (c : Char) (place : Nat) : List Run → Mapping
  | [] => .refused
  | run :: rest =>
      if place < run.length then
        match run.rule with
        | .paired => if place % 2 = 0 then .replaced [Char.ofNat (c.toNat + 1)] else .kept
        | rule => rule.apply place
      else mappingAt c (place - run.length) rest

/-- What becomes of a character. -/
def mappingOf (c : Char) : Mapping :=
  mappingAt c c.toNat mappingRuns

end PagePilot.Idna
