/-!
# The mapping of domain names

The rows of the table that says what becomes of each character of a domain name, of Unicode 17. How
they are read is said in `EventFlow.Url.Domain.Mapping`.
-/

namespace EventFlow

namespace Domain

/-- The rows of the mapping. -/
def mappingRows : List String := [
  "0V 1tS2p qV 11X wSw 1V 7Mw,lk 1V 1S2p 1V 2I 1V 1Mw,lg 1V 2S1e 2Mw,ld 1Sqk 1V 2Mw,mf 1S1d",
  "1S33 1V 1M1d,6dg,1g 1M1d,6dg,1e 1M1f,6dg,1g 1V 1S68 nV 1S6w 7V xA 1cM2x,lj 1V 1M2x,2y 2A",
  "4V 1A 6M30,53 2A 8Mjg,32 1A 1aS73 1A 6S37 1V 1Sgj 1A 4Sgk 1A 2Sgm 2A 2V 1Sd9 1Sgp 1Sgr",
  "1A 2Sgw 1Sgz 1V 1Sh5 1Sh4 1A 2V 2Shb 1She 1V 1Shh 1A 6Shs 1A 2Shv 1V 2A 2Si0 1A 2Si2 2A",
  "4Sia 1A 2V 2A 2V 6M2s,am 3M30,2y 3M32,2y 3A gV 1A iV 1M2s,3e 3A 2Sb9 1Scf 1A 14Sbi 1V 1A",
  "iV 6S8rp 1A 2Sbe 1S8rq 1V 2A 2Sao 1Si1 1Si4 1A aV 2oS2w 1Sh2 1S2y 1S36 1Shl 1Shn 1Sht",
  "1S3b 1S3d 1V vMw,li 1Mw,lj 1Mw,lm 1Mw,mg 1Mw,lf 1Mw,ln 1V 2Sgz 1S30 1S37 1S3c 1Sid 1V",
  "2jSlc 2V 1Slv 1Mlk,ld 1Sqh 1V 9I 1V wA 4Sjd 1V 1A 2X 2Mw,qh 1V 3S1n 1Ss3 1X 4Mw,ld",
  "1Mw,lk,ld 1Sq4 1S53 1Sq5 3X 1Sr0 1X 1Sr1 2V 1Sq9 hX 1Sqr 9V zSrb 1Sqa 1Sqg 1Sqt 1Sr1",
  "1Sqz 1Squ 1Sqo 1V 1A oSqi 1Sqp 1Sqr 1V 1Sqg 1Sqd 1V 1A 2Sqr 1A 2V 1Sor 3Suo gSts wV 1cA",
  "yV 8A 1iSy7 1A eV 1A 2oX 1S129 12X 2V 1aM12d,136 1V 3X 2V 3X 1V 1jX 8V rX 4V 6X hV mX 1V",
  "2gM17r,19w 1M18o,19w 1M1c7,19w 1M18q,19w 1V 2sX 1V 1cX 2V 1nX 2V 2tX eV 1nX 2V 1dX 2V fX",
  "1V sX 2V 1X 1V bX 5V wX 7V 23X 1V 39M1sl,1to 1M1sm,1to 1M1sn,1to 1M1ss,1to 1M1sx,1to",
  "1M1sy,1to 1M1t7,1to 1M1tb,1to 1V 10X 1V 8X 2V 2X 2V mX 1V 7X 1V 1X 3V 4X 2V 9X 2V 2X 2V",
  "4X 8V 1X 4M1wh,1x8 1M1wi,1x8 1X 1M1wv,1x8 1V 4X 2V pX 2V 3X 1V 6X 4V 2X 2V mX 1V 7X 1V",
  "1M20i,20s 1X 1V 1M20o,20s 1X 1V 2X 2V 1X 1V 5X 4V 2X 2V 3X 3V 1X 7M1zq,20s 1M1zr,20s",
  "1M1zw,20s 1V 1X 1M20b,20s 1X 7V hX aV 3X 1V 9X 1V 3X 1V mX 1V 7X 1V 2X 1V 5X 2V aX 1V 3X",
  "1V 3X 2V 1X fV 4X 2V cX 7V 7X 1V 3X 1V 8X 2V 2X 2V mX 1V 7X 1V 2X 1V 5X 2V 9X 2V 2X 2V",
  "3X 7V 3X 4M275,27w 1M276,27w 1X 1V 5X 2V iX aV 2X 1V 6X 3V 3X 1V 4X 3V 2X 1V 1X 1V 2X 3V",
  "2X 3V 3X 3V cX 4V 5X 3V 3X 1V 4X 2V 1X 6V 1X eV lX 5V dX 1V 3X 1V nX 1V gX 2V 9X 1V 3X",
  "1V 4X 7V 2X 1V 3X 1V 2X 2V 4X 2V aX 7V mX 1V 3X 1V nX 1V aX 1V 5X 2V 9X 1V 3X 1V 4X 7V",
  "2X 5V 3X 1V 4X 2V aX 1V 3X cV dX 1V 3X 1V 1fX 1V 3X 1V 6X 4V gX 2V qX 1V 3X 1V iX 3V oX",
  "1V 9X 1V 1X 2V 7X 3V 1X 4V 6X 1V 1X 1V 8X 6V aX 2V 3X cV 1eM2tp,2sy 1V 7X 4V tX 11V 2X",
  "1V 1X 1V 5X 1V oX 1V 1X 1V cM2x9,2wi 1V aX 2V 5X 1V 1X 1V 7X 1V aX 2M2wb,2vt 1M2wb,2w1",
  "1V 2X wV cS2yz 1V 1iM30i,33r 1V 4X 1V 4M30s,33r 1V 4M30x,33r 1V 4M312,33r 1V 4M317,33r",
  "1V cM30g,33p 1V 3X 4V 2M31t,31u 1V 1M31t,31w 1M33m,328 1M33m,31t,328 1M33n,328",
  "1M33n,31t,328 1V 7M31t,328 1V hM32q,33r 1V 4X 1V 4M330,33r 1V 4M335,33r 1V 4M33a,33r 1V",
  "4M33f,33r 1V cM32o,33p 1V 3X 1V fX 1V dX 11V 4gS8w0 12X 1S8x3 1X 5S8x9 1X 2V 18S3bw 1V",
  "2qI 2V 6gX 1V 4X 2V 7X 1V 1X 1V 4X 2V 15X 1V 4X 2V xX 1V 4X 2V 7X 1V 1X 1V 4X 2V fX 1V",
  "1lX 1V 4X 2V 1vX 2V wX 3V qX 6V 2eX 2S3xs 6X 2V hsX 1V sX 3V 2hX 7V mX 9V oX 9V kX cV dX",
  "1V 3X 1V 2X cV 1gI 2V 14X 2V aX 6V aX 6V bI 5V aX 6V 2hX 7V 17X 5V 1yX aV vX 1V cX 4V cX",
  "4V 1X 3V 16X 2V 5X bV 18X 4V qX 6V bX 3V 1qX 2V 1tX 1V tX 2V bX 6V aX 6V eX 2V 1aX 2V cX",
  "kV 25X 1V 4mX 8V 1oX 3V fX 3V 1fStu 1Stw 1Su6 1Su9 2Sua 1Sui 1Sv7 1Swuj 1A 2X 5S3bk 17X",
  "2S3ct 3V 8X 8V 17X 5V 18S2p 1S6e 1S2q 1V 1S2s 2Sd9 1S2v 8V 1S33 1Sf7 1S34 1S36 1S38 2S3b",
  "1S2p 1Sgg 2S5qa 1S2q 1S2s 2Sgp 1Sgr 2S2v 1V 1S2z 1S31 1S97 1S33 1Sgk 1S5qu 2S34 1S38",
  "2S5r1 1Shb 1S3a 1S5r9 1Sqa 3Squ 2S2x 1S36 1S39 2Sqa 2Sqp 1Squ 2V dSu5 1V ySgi 1S2r 1Sgl",
  "1S6o 1Sgs 1S2u 1Sgv 1Sgx 1Sh1 1Sh4 3S5tn 1Sil 1Sh9 1S5tx 1Sin 1Shd 1Shc 1She 4Shk 1Shu",
  "2Sbv 1Si1 2S5r0 1Si3 2S3e 1Si8 3Sqg 1V 1sA 46V 4M2p,ji 1S601 1V 2S67 1V 1A 2oV 8S64g 8V",
  "6X 2S64w 6X 2V 8S65c 8V 8S65s 8V 6X 2S668 6X 2V 8X 1S66p 1X 1S66r 1X 1S66t 1X 1S66v 1V",
  "8S674 8V 1Sq4 1V 1Sq5 1V 1Sq6 1V 1Sq7 1V 1Sr0 1V 1Sr1 1V 1Sr2 1X 2M64g,qh 1M64h,qh",
  "1M64i,qh 1M64j,qh 1M64k,qh 1M64l,qh 1M64m,qh 1M64n,qh 1M64g,qh 1M64h,qh 1M64i,qh",
  "1M64j,qh 1M64k,qh 1M64l,qh 1M64m,qh 1M64n,qh 1M65c,qh 1M65d,qh 1M65e,qh 1M65f,qh",
  "1M65g,qh 1M65h,qh 1M65i,qh 1M65j,qh 1M65c,qh 1M65d,qh 1M65e,qh 1M65f,qh 1M65g,qh",
  "1M65h,qh 1M65i,qh 1M65j,qh 1M674,qh 1M675,qh 1M676,qh 1M677,qh 1M678,qh 1M679,qh",
  "1M67a,qh 1M67b,qh 1M674,qh 1M675,qh 1M676,qh 1M677,qh 1M678,qh 1M679,qh 1M67a,qh",
  "1M67b,qh 1V 2M67k,qh 1Mq9,qh 1Mq4,qh 1X 1V 1M69i,qh 1S69c 2S67k 1Sq4 1Mq9,qh 1Mw,lv 1Sqh",
  "1Mw,lv 1Mw,n6 1Mw,lk,n6 1M67o,qh 1Mqf,qh 1Mq6,qh 1X 1V 1M69y,qh 1S67m 1Sq5 1S67o 1Sq6",
  "1Mqf,qh 1Mw,lv,lc 1Mw,lv,ld 1Mw,lv,n6 1V 3Spc 1X 2V 2S6a8 2S67q 1Sq7 1X 1Mw,lw,lc",
  "1Mw,lw,ld 1Mw,lw,n6 1V 3Sq8 1V 4S6ao 2S67u 1Sr1 1S6at 1Mw,lk,lc 1Mw,lk,ld 1S2o 1X",
  "2M67w,qh 1Mqx,qh 1Mr2,qh 1X 1V 1M6ba,qh 1S67s 1Sr0 1S67w 1Sr2 1Mqx,qh 1Mw,ld 1Mw,lw 1X",
  "1Mw bI 1V 2X 2V 1S6c0 1V 5Mw,mr 1V cX 3V 1X 7Sw 1V 3M6cy,6cy 1M6cy,6cy,6cy 1V 1M6d1,6d1",
  "1M6d1,6d1,6d1 1V 4Mx,x 1V 1Mw,lh 1V 8M1r,1r 1M1r,x 1Mx,1r 1V dM6cy,6cy,6cy,6cy 1V 7Sw 1I",
  "5X 5I 6S1c 1S2x 1X 2S1g 6S17 1S6qa 1S1p 1S14 2S32 1S1c aS17 1S6qa 1S1p 1S14 2X 1S2p 1S2t",
  "1S33 1S3c 1Sgp 1S2w 1S2z 4S34 1S37 2X 3V 8M36,37 1V pX eV xX fM2p,1b,2r 1M2p,1b,37 1S2r",
  "1M4w,2r 1V 1M2r,1b,33 1M2r,1b,39 1Sgr 1V 1M4w,2u 1S2v 2M2w 3S87 1M2x 2M30 2V 1S32",
  "1M32,33 1V 2S34 3M36 2V 2M37,31 1M38,2t,30 1M38,31 1V 1S3e 1V 1Sqx 1V 1S3e 1V 1S2z 1S6d",
  "1S2q 2V 1M2t 2S2u 1S6ku 1S31 1S33 1S15c 4S2x 1V 1M2u,2p,3c 1Sqo 1Mqb 2Sqo 1S6q9 1V 4M2s",
  "2S2t 1S2x 2V 6M1d,6dg,1j 1M1d,6dg,1l 1M1d,6dg,1d,1c 1M1d,6dg,1f 1M1e,6dg,1f 1M1d,6dg,1h",
  "1M1e,6dg,1h 1M1f,6dg,1h 1M1g,6dg,1h 1M1d,6dg,1i 1M1h,6dg,1i 1M1d,6dg,1k 1M1f,6dg,1k",
  "1M1h,6dg,1k 1M1j,6dg,1k 1M1d,6dg 1S2x 1M2x,2x 1M2x,2x,2x 1M2x,3a 1S3a 1M3a,2x 1M3a,2x,2x",
  "1M3a,2x,2x,2x 1M2x,3c 1S3c 1M3c,2x 1M3c,2x,2x 1S30 1S2r 2S31 1S2x 1M2x,2x 1M2x,2x,2x",
  "1M2x,3a 1S3a 1M3a,2x 1M3a,2x,2x 1M3a,2x,2x,2x 1M2x,3c 1S3c 1M3c,2x 1M3c,2x,2x 1S30 1S2r",
  "2S31 1V 3A 2V 4M1c,6dg,1f 1V 2X 4V 4cM6qz,6qz 1M6qz,6qz,6qz 1V 1M6r2,6r2 1M6r2,6r2,6r2",
  "1V 6wS9hk 2V 73X mV bX lS1d 9M1d,1c 1M1d,1d 1M1d,1e 1M1d,1f 1M1d,1g 1M1d,1h 1M1d,1i",
  "1M1d,1j 1M1d,1k 1M1d,1l 1M1e,1c 1M14,1d,15 1M14,1e,15 1M14,1f,15 1M14,1g,15 1M14,1h,15",
  "1M14,1i,15 1M14,1j,15 1M14,1k,15 1M14,1l,15 1M14,1d,1c,15 1M14,1d,1d,15 1M14,1d,1e,15",
  "1M14,1d,1f,15 1M14,1d,1g,15 1M14,1d,1h,15 1M14,1d,1i,15 1M14,1d,1j,15 1M14,1d,1k,15",
  "1M14,1d,1l,15 1M14,1e,1c,15 1X kM14,2p,15 1M14,2q,15 1M14,2r,15 1M14,2s,15 1M14,2t,15",
  "1M14,2u,15 1M14,2v,15 1M14,2w,15 1M14,2x,15 1M14,2y,15 1M14,2z,15 1M14,30,15 1M14,31,15",
  "1M14,32,15 1M14,33,15 1M14,34,15 1M14,35,15 1M14,36,15 1M14,37,15 1M14,38,15 1M14,39,15",
  "1M14,3a,15 1M14,3b,15 1M14,3c,15 1M14,3d,15 1M14,3e,15 1S2p qS2p qS1c 1V",
  "10hM6qz,6qz,6qz,6qz 1V 2vM1m,1m,1p 1M1p,1p 1M1p,1p,1p 1V 2tM8gt,mw 1V 47X 2V 3uS8q8 1cV",
  "1cA 2Sh7 1S5tp 1Shp 1V 2A 6Sgh 1Shd 1Sgg 1Sgi 1V 1A 2V 1A 2V 5S2y 1S3a 1Sfz 2A 2sV 7A 4V",
  "3A 2X 5V 19X 1V 1X 5V 1X 2V 1kX 7S8yp 1V 1X eV oX 9V 7X 1V 7X 1V 7X 1V 7X 1V 7X 1V 7X 1V",
  "7X 1V 7X 1V 3iX yV qX 1V 4Slal 1V 2bSvj3 1X cSfeo 1Sffs 1Sfg6 1Sfgf 1Sfh5 1Sfid 1Sfik",
  "1Sfj4 1Sfju 1Sg1r 1Sg2t 1Sg2z 1Sg3m 1Sg46 1Sg4r 1Sg68 1Sg6t 1Sg74 1Sgbf 1Sge1 1Sget",
  "1Sgey 1Sgfs 1Sgg1 1Sggs 1Sgh5 1Sghu 1Sgja 1Sgjs 1Sgkj 1Sh5j 1Sh7j 1Shkb 1Shky 1Shl6",
  "1Shlh 1Shlz 1Sho3 1Si1c 1Si2o 1Si60 1Si6n 1Si76 1Si7s 1Si9a 1Si9d 1Sijf 1Sijp 1Sik1",
  "1Sike 1Sinm 1Sinu 1Sinz 1Sir8 1Siri 1Sirv 1Sis3 1Sits 1Siu9 1Siur 1Siwz 1Sjd4 1Sjee",
  "1Sjez 1Sjzj 1Sjzo 1Sk1z 1Sk2f 1Sk2s 1Sk3d 1Sk4g 1Sk4l 1Skc0 1Skco 1Skdk 1Sl5s 1Sl7m",
  "1Sl89 1Sl9v 1Slaj 1Slas 1Slaz 1Slcf 1Slck 1Sldg 1Sm7f 1Smju 1Smk6 1Smkb 1Smkf 1Smkn",
  "1Sml5 1Sml7 1Smng 1Smtg 1Smtl 1Sn30 1Sn3a 1Sn4o 1Sn4v 1Sn54 1Sn5c 1Sn7v 1Sn82 1Snee",
  "1Snel 1Snfy 1Sngf 1Snhq 1Snob 1Snoi 1Snoz 1Sny2 1So1k 1So1q 1So6s 1So97 1Soah 1Sokz",
  "1Sooo 1Sp4m 1Sp5d 1Sp6y 1Sp8d 1Spa9 1Spak 1Spaq 1Spbn 1Spdr 1Spe1 1Spnn 1Spnu 1Spo3",
  "1Spoc 1Spos 1Spp7 1Sppb 1Spri 1Sprm 1Sprs 1Sqj1 1Sqjv 1Sqww 1Sqx8 1Sqxv 1Sr5q 1Sr63",
  "1Sr82 1Sr9c 1Srp3 1Srpi 1Srpx 1Srqw 1Srrx 1Srxg 1Srxs 1Srzn 1Ss6j 1Ss7e 1Ssd7 1Ssds",
  "1Ssdx 1Ssk1 1Ssp5 1Sssm 1Ssss 1Sssx 1Stiv 1Stj4 1Stng 1Strq 1Strt 1Stt4 1Stw1 1Stwe",
  "1Stwi 1Stwp 1Stzf 1Su0d 1Su0j 1Su0x 1Su5k 1Su6z 1Su73 1Suc6 1Suc9 1Sucs 1Sujs 1Sul4",
  "1Sulb 1Sun9 1Sunj 1Sunm 1Sunw 1Suoq 1Suzp 1Svat 1Svb3 1Svc5 1Svcr 1Svcz 1Svd9 1Svdd",
  "1Sveh 1Svel 1Svf2 1Svf7 1Svfk 1Svgb 1Svgq 1Svgy 1Svil 1Svj0 1Svj4 1X 16Sw 1V 1S1a 1V",
  "1fS9hu 1V 1Sgg1 1Sgg4 2V 5X 1V 2eX 2V 2Mw,9ll 1Mw,9lm 1V 2M9l4,9l6 1V 2nM9mb,9mw 1X 5V",
  "17X 1S3cw 2S3hm 1S3cy 1S3ho 2S3cz 3S3hs 6S3dm 1S3d2 3S3dt 1S3d5 aS3fl lI 1S3dg 2S3if",
  "2S3ik 1S3im 1S3ir 1S3iv 1S3ix 1S3do 1S3j1 1S3j3 1S3dp 2S3ds 1S3du 2S3dz 1S3e1 1S3e3",
  "5S3ea 1S3ee 1S3eo 1S3ev 1S3f0 1S3jl 2S3fb 3S3gk 2S3go 1S3gx 2S3h0 1S3ha 1S3hd 1X 1V",
  "2Sfeo 1Sfik 1Sfex 1Sh5n 1Sfey 1Sffx 1Sfez 1Sn5e 1Sfh5 1Sffd 1Sfep 1Shm1 1Sh80 1Sfju 1V",
  "1yX aV gM14,3cw,15 1M14,3cy,15 1M14,3cz,15 1M14,3d1,15 1M14,3d2,15 1M14,3d3,15",
  "1M14,3d5,15 1M14,3d7,15 1M14,3d8,15 1M14,3da,15 1M14,3db,15 1M14,3dc,15 1M14,3dd,15",
  "1M14,3de,15 1M14,xz4,15 1M14,yvs,15 1M14,zc4,15 1M14,108s,15 1M14,10p4,15 1M14,115g,15",
  "1M14,1224,15 1M14,12ys,15 1M14,13f4,15 1M14,14bs,15 1M14,14s4,15 1M14,158g,15",
  "1M14,15os,15 1M14,1654,15 1M14,13p8,15 1M14,1350,13ic,15 1M14,1350,16f8,15 1X",
  "1M14,feo,15 1M14,fik,15 1M14,fex,15 1M14,h5n,15 1M14,fis,15 1M14,g31,15 1M14,fer,15",
  "1M14,g2z,15 1M14,fh9,15 1M14,gg1,15 1M14,kco,15 1M14,m7f,15 1M14,ldg,15 1M14,kdk,15",
  "1M14,ssx,15 1M14,h7j,15 1M14,k4l,15 1M14,kkq,15 1M14,kcp,15 1M14,ny6,15 1M14,glp,15",
  "1M14,mm1,15 1M14,rs1,15 1M14,nz1,15 1M14,gc4,15 1M14,fkz,15 1M14,gos,15 1M14,i1y,15",
  "1M14,nhf,15 1M14,flt,15 1M14,rt3,15 1M14,ggk,15 1M14,nzh,15 1M14,fm9,15 1M14,pnu,15",
  "1M14,po3,15 1Sgun 1Sinw 1Sk1z 1Soen 1V 8M34,38,2t 1M1e,1d 1M1e,1e 1M1e,1f 1M1e,1g",
  "1M1e,1h 1M1e,1i 1M1e,1j 1M1e,1k 1M1e,1l 1M1f,1c 1M1f,1d 1M1f,1e 1M1f,1f 1M1f,1g 1M1f,1h",
  "1S3cw 1S3cy 2S3d1 3S3d5 1S3d7 2S3da 5Sxz4 1Syvs 1Szc4 1S108s 1S10p4 1S115g 1S1224 1S12ys",
  "1S13f4 1S14bs 1S14s4 1S158g 1S15os 1S1654 1M14c8,y5c 1M13p8,13dk 1S138w 1V 1Sfeo 1Sfik",
  "1Sfex 1Sh5n 1Sfis 1Sg31 1Sfer 1Sg2z 1Sfh9 1Sgg1 1Skco 1Sm7f 1Sldg 1Skdk 1Sssx 1Sh7j",
  "1Sk4l 1Skkq 1Skcp 1Sny6 1Sglp 1Smm1 1Srs1 1Snz1 1Sgc4 1So2g 1Sn5j 1Sho3 1Ssix 1Sg16",
  "1Sghc 1Slig 1Su11 1Sfm9 1Sg49 1Sl7n 1Sfey 1Sffx 1Sfez 1Sijq 1Sgkz 1Sgfv 1Si3b 1Si1y",
  "1Snhf 1Sflt 1Srt3 1Sggk 1Shlo 1M1f,1i 1M1f,1j 1M1f,1k 1M1f,1l 1M1g,1c 1M1g,1d 1M1g,1e",
  "1M1g,1f 1M1g,1g 1M1g,1h 1M1g,1i 1M1g,1j 1M1g,1k 1M1g,1l 1M1h,1c 1M1d,kco 1M1e,kco",
  "1M1f,kco 1M1g,kco 1M1h,kco 1M1i,kco 1M1j,kco 1M1k,kco 1M1l,kco 1M1d,1c,kco 1M1d,1d,kco",
  "1M1d,1e,kco 1M2w,2v 1M2t,36,2v 1M2t,3a 1M30,38,2s 1S9lu 1S9lw 1S9ly 1S9m0 1S9m2 2S9m5",
  "1S9m7 1S9m9 1S9mb 1S9md 1S9mf 1S9mh 1S9mj 1S9ml 1S9mn 1S9mp 1S9ms 1S9mu 1S9mw 1S9my",
  "6S9n6 1S9n9 1S9nc 1S9nf 1S9ni 5S9no 1S9nq 1S9ns 6S9nz 4Mfl0,gp8 1M9lu,9n5,9oc,9mw",
  "1M9lu,9nv,9n9,9lt 1M9lu,9o3,9ne,9lu 1M9lu,9oc,9nv 1M9lw,9mz,9o3,9m8 1M9lw,9o3,9mp",
  "1M9ly,9m1,9o3 1M9m0,9mh,9m7,9oc,9mx 1M9m0,9oc,9m3,9oc 1M9m2,9o3,9mh 1M9m2,9oc,9nk",
  "1M9m3,9lw,9nu 1M9m3,9nt,9mr,9mw 1M9m3,9nx,9nu,9oc 1M9m4,9nx,9o3 1M9m4,9o3,9ni 1M9m6,9m4",
  "1M9m6,9mz,9oc 1M9m5,9np,9nu,9oc 1M9m6,9nv,9mo,9oc 1M9m5,9nx 1M9m5,9nx,9m8,9nt,9nk",
  "1M9m5,9nx,9nl,9oc,9mw,9nv 1M9m5,9nx,9nz,9mr,9mw 1M9m8,9nt,9nk 1M9m8,9nt,9nk,9mw,9o3",
  "1M9m7,9nv,9mk,9lw,9nx 1M9m7,9nx,9oc,9n1 1M9m9,9oc,9mh 1M9mb,9nv,9my 1M9mb,9oc,9nh",
  "1M9md,9lw,9m7,9nv 1M9md,9o3,9mp,9oc,9nk 1M9mf,9nu,9o3,9m8 1M9mj,9o3,9mp 1M9mj,9o3,9mw",
  "1M9mo,9oc,9mh 1M9mv,9mf 1M9mx,9nv 1M9mw,9o3 1M9my,9n2 1M9n2,9mr,9mw 1M9n3,9lw,9ms",
  "1M9n5,9oc,9mj,9o3,9mw 1M9n5,9oc,9ms 1M9n4,9oc,9nw,9nv 1M9n8,9lu,9mh,9mw,9nv",
  "1M9n8,9m7,9nv 1M9n8,9mb 1M9n7,9nv 1M9n9,9lt,9nt,9mr,9mx 1M9n9,9lv,9oc,9mw",
  "1M9na,9mr,9mf,9lz,9nv 1M9n9,9nt,9o3 1M9nc,9m7,9mn,9oc,9nv 1M9ne,9ml 1M9ne,9mz,9n6",
  "1M9nc,9nv,9ms 1M9ne,9o3,9mh 1M9ne,9oc,9mg 1M9nd,9oc,9mn 1M9nh,9lw,9o3,9mw 1M9ng,9nv,9mw",
  "1M9nf,9o3 1M9nh,9o3,9mx 1M9nf,9oc,9nv 1M9nf,9oc,9o3 1M9ni,9lw,9m7,9nx 1M9ni,9lw,9nv",
  "1M9ni,9mr,9n3 1M9ni,9nv,9m7 1M9ni,9o3,9mf,9nr,9o3 1M9nj,9m7,9nx,9o3 1M9nj,9nu",
  "1M9nj,9nu,9n4,9oc,9nv 1M9nl,9m4 1M9nl,9m4,9mw,9o3 1M9nl,9oc,9mw,9nv 1M9no,9oc,9mx",
  "1M9no,9oc,9nv 1M9nq,9lu,9o3 1M9nu,9mr,9mw,9nv 1M9nu,9nt 1M9nv,9n8,9oc 1M9nv,9oc,9na,9nv",
  "1M9nw,9nk 1M9nw,9o3,9mw,9ma,9o3 1M9nz,9mr,9mw 1M1c,m9l 1M1d,m9l 1M1e,m9l 1M1f,m9l",
  "1M1g,m9l 1M1h,m9l 1M1i,m9l 1M1j,m9l 1M1k,m9l 1M1l,m9l 1M1d,1c,m9l 1M1d,1d,m9l",
  "1M1d,1e,m9l 1M1d,1f,m9l 1M1d,1g,m9l 1M1d,1h,m9l 1M1d,1i,m9l 1M1d,1j,m9l 1M1d,1k,m9l",
  "1M1d,1l,m9l 1M1e,1c,m9l 1M1e,1d,m9l 1M1e,1e,m9l 1M1e,1f,m9l 1M1e,1g,m9l 1M2w,34,2p",
  "1M2s,2p 1M2p,39 1M2q,2p,36 1M33,3a 1M34,2r 1M2s,31 1M2s,31,1e 1M2s,31,1f 1M2x,39",
  "1Minn,jdc 1Mk6l,gp8 1Mhlz,l7n 1Mk5q,lh7 1Mkkq,irz,fmi,ny6 1M34,2p 1M32,2p 1Mqk,2p",
  "1M31,2p 1M2z,2p 1M2z,2q 1M31,2q 1M2v,2q 1M2r,2p,30 1M2z,2r,2p,30 1M34,2u 1M32,2u 1Mqk,2u",
  "1Mqk,2v 1M31,2v 1M2z,2v 1M2w,3e 1M2z,2w,3e 1M31,2w,3e 1M2v,2w,3e 1M38,2w,3e 1Mqk,30",
  "1M31,30 1M2s,30 1M2z,30 1M2u,31 1M32,31 1Mqk,31 1M31,31 1M2r,31 1M2z,31 1M31,31,1e",
  "1M2r,31,1e 1M31,1e 1M2z,31,1e 1M31,31,1f 1M2r,31,1f 1M31,1f 1M2z,31,1f 1M31,6qd,37",
  "1M31,6qd,37,1e 1M34,2p 1M2z,34,2p 1M31,34,2p 1M2v,34,2p 1M36,2p,2s 1M36,2p,2s,6qd,37",
  "1M36,2p,2s,6qd,37,1e 1M34,37 1M32,37 1Mqk,37 1M31,37 1M34,3a 1M32,3a 1Mqk,3a 1M31,3a",
  "1M2z,3a 1M31,3a 1M34,3b 1M32,3b 1Mqk,3b 1M31,3b 1M2z,3b 1M31,3b 1M2z,qx 1M31,qx 1X",
  "1M2q,35 1M2r,2r 1M2r,2s 1M2r,6qd,2z,2v 1X 1M2s,2q 1M2v,3d 1M2w,2p 1M2w,34 1M2x,32",
  "1M2z,2z 1M2z,31 1M2z,38 1M30,31 1M30,32 1M30,33,2v 1M30,3c 1M31,2q 1M31,2x,30 1M31,33,30",
  "1M34,2w 1X 1M34,34,31 1M34,36 1M37,36 1M37,3a 1M3b,2q 1M3a,6qd,31 1M2p,6qd,31 1M1d,k4l",
  "1M1e,k4l 1M1f,k4l 1M1g,k4l 1M1h,k4l 1M1i,k4l 1M1j,k4l 1M1k,k4l 1M1l,k4l 1M1d,1c,k4l",
  "1M1d,1d,k4l 1M1d,1e,k4l 1M1d,1f,k4l 1M1d,1g,k4l 1M1d,1h,k4l 1M1d,1i,k4l 1M1d,1j,k4l",
  "1M1d,1k,k4l 1M1d,1l,k4l 1M1e,1c,k4l 1M1e,1d,k4l 1M1e,1e,k4l 1M1e,1f,k4l 1M1e,1g,k4l",
  "1M1e,1h,k4l 1M1e,1i,k4l 1M1e,1j,k4l 1M1e,1k,k4l 1M1e,1l,k4l 1M1f,1c,k4l 1M1f,1d,k4l",
  "1M2v,2p,30 1V m8dX 3V 1jX 9V 9oX kA 1aV iA sSui 1Suk 1V 2iX 8V yA eV 2A 1qSx2n 1V 8A",
  "4S5tl 1A aV 3A 2Sh1 1V 2A 4V 2A kSh2 1Sgs 1Sgx 1Sh8 1Sh6 1V 1Sim 1Shz 1Sil 1Sxub 1A",
  "gSx3o 1Shu 1S5u6 1A 4Sh0 1A gSbf 1X kS37 1S2r 1S2u 1S35 1A 2V 1S87 1S9f 1V 1fX 3V aX 6V",
  "1kX 8V 1yX 8V cX 6V 38X bV uX 3V 26X 1V bX 4V xX 1V 1jX 9V eX 2V aX 2V 2vX oV sX aV 6X",
  "2V 6X 2V 6X 9V 7X 1V 7X 1V 18Sx0n 1Sxtj 1Sh7 1Sxua 1V 9Si5 1V 2X 4S3vk 28V 1aX 2V aX 6V",
  "8mcX cV nX 4V 1dX 6isSrpk 1Skc4 1Ss7e 1Srt4 1Slw1 1Sfg2 1Sgkl 1Mvj0 2Shn5 1Sssx 1Sgw7",
  "1Shmw 1Sjcm 1Sne1 1Sp6t 1Sqin 1Sqt6 1Sr20 1Ssjz 1Skxu 1Sljv 1Smah 1Smvy 1Sq4d 1Ssq2",
  "1Suep 1Sfia 1Sghh 1Sl50 1Smjf 1Sqi5 1Sv8e 1Sifk 1Sm3v 1Sqfh 1Sr50 1Sjih 1Spnc 1Sqvz",
  "1Siq2 1Skd3 1Slm2 1Smpo 1Sslq 1Sfpi 1Sg53 1Sgda 1Sjwk 1Sl3n 1Smj4 1Snhj 1Spa9 1Sqh2",
  "1Sqjg 1Ss1b 1Stv6 1Supb 1Sv7e 1Snt8 1Snzz 1Sotc 1Sq15 1St1g 1Svb3 1Srfa 1Shjz 1Siro",
  "1Sokg 1Spdq 1Smle 1Snuy 1Srsy 1Sttj 1Shjs 1Si8y 1Skyb 1Slp6 1Slxr 1Soq7 1Soxj 1Stor",
  "1Sgcy 1Spe3 1Sg64 1Sg5o 1So4c 1Sou6 1Sq29 1Stpx 1Srk0 1Sjin 1Skxu 1Srge 1Sfg9 1Si5j",
  "1Siz6 1Smtj 1Sn74 1Sgev 1Snwb 1Sfr3 1Siw9 1Sff1 1Slho 1Sk1k 1Sopu 1Sgjn 1Shge 1Sni9",
  "1Sq4p 1Sre2 1Sla2 1Ssds 1Slfs 1Sjjy 1Sput 1Sjog 1Sn6t 1Sfji 1Sg2x 1Sg5l 1Skn5 1Soo7",
  "1Sprj 1Srf6 1Sssv 1Sgdx 1Sgn6 1Sho3 1Sir0 1Sk3p 1Sm4e 1Snxm 1Stkd 1Sui2 1Svbr 1Svda",
  "1Sgbf 1Skau 1Sl87 1Ssbm 1Sino 1Sj9s 1Sjcw 1Sjve 1Slyb 1Smdl 1Sn0p 1So22 1Sovo 1Spdb",
  "1Ss9y 1Sq9a 1Ssgz 1St3e 1Sg7r 1Sgbn 1Sgql 1Sma0 1Sr0i 1Sre2 1Siq1 1Siyd 1Sjnf 1Sl9q",
  "1Soji 1Smt1 1Sfl0 1Sh6h 1Si5j 1Siii 1Sizg 1Smuq 1Smzt 1Sp7e 1Spc6 1Ssvo 1Stti 1Stvs",
  "1Su1k 1Sfpn 1So1a 1Sss4 1Strs 1Sj4x 1Sfie 1Sfyy 1Si5q 1Si7z 1Sk2h 1Skxu 1Smha 1Sncy",
  "1Sq9o 1Ssjg 1Svil 1Sk94 1Stny 1Sgax 1Skfv 1Skj7 1Slkx 1Sluk 1Smx5 1Sn6h 1Snsb 1Sopc",
  "1Su3i 1Sg31 1Sje6 1Stq0 1Sfu3 1Sie1 1Slpm 1Ssa2 1Sivf 1Sj7o 1Skk7 1Smtj 1Stqe 1Sg89",
  "1Sglr 1Si91 1Sk5v 1Skem 1Sko8 1Slid 1Smx2 1Snaa 1Sp6h 1Sr0v 1Sr1d 1Ssss 1Stsy 1Sgfz",
  "1Slve 1Sgm5 1Smhc 1Sn14 1Sqgq 1Str7 1Suvr 1Svbz 1Skgn 1Slor 1Spns 1So97 1Sobk 1Solu",
  "1Smo0 1Sm8p 1Sriw 1Sfk0 1Spx2 1Sg8q 1Sg7b 1Sip2 1Sjir 1Sonq 1Si2t 1Sljy 1Skac 1Ssaj",
  "1Sqx8 1Stot 1Sr63 1Siqb 1Sg1s 1Sgxs 1V 2Shga 1V 1Sk8k 1V 2Sg66 1Smqy 1Sngq 1Sny4 1Snz2",
  "1Snz9 1So0f 1Stw6 1Son2 1Sp8d 1V 1Sqhe 1V 1Srg8 1V 2Sshk 1Ssn1 1V 3Su7j 1Su7w 1Su94",
  "1Sv5g 1Ssm6 1Strr 1Sfqm 1Sfzb 1Sg25 1Sgcp 1Sgdg 1Sggh 1Sgwt 1Sgzq 1Sh2g 1Shfk 1Shig",
  "1Si90 1Si9a 1Sj2s 1Sj8o 1Sj9q 1Sjci 1Sk0f 1Sk4i 1Sk9d 1Skn9 1Slmf 1Slqy 1Slya 1Smem",
  "1Smjv 1Smxu 1Sntd 1Sny6 1Snyh 1Snyg 1Snyo 1Snyu 1Snz1 1So0d 2So5c 1So75 1Sog0 1Sovo",
  "1Sow9 1Soxt 1Sp6a 1Spad 1Spnx 1Mprt 2Sq53 1Sr2o 1Sr6e 1Srgh 1Sri1 1Srtf 1Sruw 1Ssdy",
  "1Sshk 1Stsz 1Su0v 1Su2j 1Sj1x 1S36cu 1Spp4 1X 2Sffq 1Sg51 1Sg2w 1Sfpc 1Sg1x 1Sg3k 1Sgcn",
  "1Sge2 1Sgwt 1Sgut 1Sgwp 1Sgyq 1Shga 1Shir 1Shms 1Shn8 1Shuq 1Si08 1Siqa 1Siqh 1Siuh",
  "1Siwd 1Sj4o 1Sj7y 1Sj60 1Sj9q 1Sj8g 1Sjci 1Sjec 1Sjpg 1Sjrw 1Sjte 1Sk0m 1Sk8k 1Skd3",
  "1Skd7 1Skeu 1Sl89 1Sla2 1Slkx 1Slwb 1Slvv 1Slya 1Sm5a 1Smem 1Snmv 1Smk5 1Smnj 1Smqy",
  "1Sn01 1Sn46 1Sn5n 1Snbx 1Snbz 1Sngq 1Snh7 1Snhw 1Snka 1Snk0 1Snv0 1So8h 1Sog0 1Sol7",
  "1Sorf 1Sovo 1Sp4u 1Spad 1Spxu 1Sq27 1Sqrd 1Sr41 1Sr5y 1Sr6e 1Sren 1Srg8 1Srez 1Srgh",
  "1Srge 1Srfx 1Sri1 1Srka 1Sruw 1Ssag 1Ssj6 1Ssrd 1Ssxi 1Stq4 1Stsz 1Stw6 1Stzv 1Su0v",
  "1Su17 1Su2j 1Sumq 1Svj0 1S313e 1S3138 1S33dh 1Sbrx 1Scns 1Scop 1S39e1 1S3bgw 1S3i6r",
  "1Svgj 1Svim 1X 12M2u,2u 1M2u,2x 1M2u,30 1M2u,2u,2x 1M2u,2u,30 1M37,38 2X cM12s,12u",
  "1M12s,12d 1M12s,12j 1M132,12u 1M12s,12l 1X 5M15l,14k 1V 1M16a,14n 1S15u 1S15c 1S15f",
  "2S15n 3S160 1S162 1S17 1M161,14x 1M161,14y 1M161,14s,14x 1M161,14s,14y 1M15c,14n",
  "1M15c,14o 1M15c,14s 1M15d,14s 1M15e,14s 1M15f,14s 1M15g,14s 1M15h,14s 1M15i,14s 1X",
  "1M15k,14s 1M15l,14s 1M15m,14s 1M15n,14s 1M15o,14s 1X 1M15q,14s 1X 1M15s,14s 1M15t,14s 1X",
  "1M15v,14s 1M15w,14s 1X 1M15y,14s 1M15z,14s 1M160,14s 1M161,14s 1M162,14s 1M15h,14p",
  "1M15d,14v 1M15n,14v 1M15w,14v 1M15c,15o 1M19t 2M1a3 4M1a6 4M1a8 4M1a2 4M1a7 4M1a1 4M1b8",
  "4M1ba 4M1ac 4M1ab 4M1ae 4M1af 4M1al 2M1ak 2M1am 2M1ag 2M1aw 2M1ap 2M1bd 4M1bj 4M1bn",
  "4M1bl 4M1bu 2M1bv 4M1c0 2M1c1 4M1by 4M1ci 2M1cj 2V xM1bh 4M1c7 2M1c6 2M1c8 2M1c7,19w",
  "1M1cb 2M1c5 2M1c9 2M1cg 4M18p 2M17q,17r 2M17q,1cl 2M17q,18o 2M17q,1c7 2M17q,1c6",
  "2M17q,1c8 2M17q,1cg 3M17q,18p 3M1cc 4M17q,17w 1M17q,17x 1M17q,18l 1M17q,18p 1M17q,18q",
  "1M17s,17w 1M17s,17x 1M17s,17y 1M17s,18l 1M17s,18p 1M17s,18q 1M17u,17w 1M17u,17x",
  "1M17u,17y 1M17u,18l 1M17u,18p 1M17u,18q 1M17v,17w 1M17v,18l 1M17v,18p 1M17v,18q",
  "1M17w,17x 1M17w,18l 1M17x,17w 1M17x,18l 1M17y,17w 1M17y,17x 1M17y,18l 1M183,17w",
  "1M183,17x 1M183,17y 1M183,18l 1M185,17x 1M185,18l 1M186,17w 1M186,17x 1M186,17y",
  "1M186,18l 1M187,17x 1M187,18l 1M188,18l 1M189,17w 1M189,18l 1M18a,17w 1M18a,18l",
  "1M18h,17w 1M18h,17x 1M18h,17y 1M18h,18l 1M18h,18p 1M18h,18q 1M18i,17x 1M18i,18l",
  "1M18i,18p 1M18i,18q 1M18j,17r 1M18j,17w 1M18j,17x 1M18j,17y 1M18j,18k 1M18j,18l",
  "1M18j,18p 1M18j,18q 1M18k,17w 1M18k,17x 1M18k,17y 1M18k,18l 1M18k,18p 1M18k,18q",
  "1M18l,17w 1M18l,17x 1M18l,17y 1M18l,18l 1M18l,18p 1M18l,18q 1M18m,17w 1M18m,17x",
  "1M18m,17y 1M18m,18l 1M18m,18p 1M18m,18q 1M18n,17w 1M18n,18l 1M18n,18p 1M18n,18q",
  "1M18q,17w 1M18q,17x 1M18q,17y 1M18q,18l 1M18q,18p 1M18q,18q 1M180,19s 1M181,19s",
  "1M18p,19s 1Mw,18s,18x 1Mw,18t,18x 1Mw,18u,18x 1Mw,18v,18x 1Mw,18w,18x 1Mw,18x,19s",
  "1M17q,181 1M17q,182 1M17q,18l 1M17q,18m 1M17q,18p 1M17q,18q 1M17s,181 1M17s,182",
  "1M17s,18l 1M17s,18m 1M17s,18p 1M17s,18q 1M17u,181 1M17u,182 1M17u,18l 1M17u,18m",
  "1M17u,18p 1M17u,18q 1M17v,181 1M17v,182 1M17v,18l 1M17v,18m 1M17v,18p 1M17v,18q",
  "1M18h,18p 1M18h,18q 1M18i,18p 1M18i,18q 1M18j,17r 1M18j,18k 1M18j,18l 1M18j,18p",
  "1M18j,18q 1M18k,18l 1M18k,18p 1M18k,18q 1M18l,17r 1M18l,18l 1M18m,181 1M18m,182",
  "1M18m,18l 1M18m,18m 1M18m,18p 1M18m,18q 1M18p,19s 1M18q,181 1M18q,182 1M18q,18l",
  "1M18q,18m 1M18q,18p 1M18q,18q 1M17q,17w 1M17q,17x 1M17q,17y 1M17q,18l 1M17q,18n",
  "1M17s,17w 1M17s,17x 1M17s,17y 1M17s,18l 1M17s,18n 1M17u,17w 1M17u,17x 1M17u,17y",
  "1M17u,18l 1M17u,18n 1M17v,18l 1M17w,17x 1M17w,18l 1M17x,17w 1M17x,18l 1M17y,17w",
  "1M17y,18l 1M183,17w 1M183,17x 1M183,17y 1M183,18l 1M185,17x 1M185,17y 1M185,18l",
  "1M186,17w 1M186,17x 1M186,17y 1M186,18l 1M187,17x 1M188,18l 1M189,17w 1M189,18l",
  "1M18a,17w 1M18a,18l 1M18h,17w 1M18h,17x 1M18h,17y 1M18h,18l 1M18i,17x 1M18i,18l",
  "1M18j,17w 1M18j,17x 1M18j,17y 1M18j,18k 1M18j,18l 1M18k,17w 1M18k,17x 1M18k,17y",
  "1M18k,18l 1M18k,18n 1M18l,17w 1M18l,17x 1M18l,17y 1M18l,18l 1M18m,17w 1M18m,17x",
  "1M18m,17y 1M18m,18l 1M18m,18n 1M18n,17w 1M18n,18l 1M18n,19s 1M18q,17w 1M18q,17x",
  "1M18q,17y 1M18q,18l 1M18q,18n 1M17q,18l 1M17q,18n 1M17s,18l 1M17s,18n 1M17u,18l",
  "1M17u,18n 1M17v,18l 1M17v,18n 1M183,18l 1M183,18n 1M184,18l 1M184,18n 1M18j,18k",
  "1M18j,18l 1M18k,18l 1M18m,18l 1M18m,18n 1M18q,18l 1M18q,18n 1M18g,18u,18x 1M18g,18v,18x",
  "1M18g,18w,18x 1M187,18p 1M187,18q 1M189,18p 1M189,18q 1M18a,18p 1M18a,18q 1M183,18p",
  "1M183,18q 1M184,18p 1M184,18q 1M17x,18p 1M17x,18q 1M17w,18p 1M17w,18q 1M17y,18p",
  "1M17y,18q 1M185,18p 1M185,18q 1M186,18p 1M186,18q 1M184,17w 1M184,17x 1M184,17y",
  "1M184,18l 1M184,181 1M183,181 1M185,181 1M186,181 1M187,18p 1M187,18q 1M189,18p",
  "1M189,18q 1M18a,18p 1M18a,18q 1M183,18p 1M183,18q 1M184,18p 1M184,18q 1M17x,18p",
  "1M17x,18q 1M17w,18p 1M17w,18q 1M17y,18p 1M17y,18q 1M185,18p 1M185,18q 1M186,18p",
  "1M186,18q 1M184,17w 1M184,17x 1M184,17y 1M184,18l 1M184,181 1M183,181 1M185,181",
  "1M186,181 1M184,17w 1M184,17x 1M184,17y 1M184,18l 1M183,18n 1M184,18n 1M187,18l",
  "1M183,17w 1M183,17x 1M183,17y 1M184,17w 1M184,17x 1M184,17y 1M187,18l 1M188,18l",
  "1M17r,18r 2V iM17u,17w,18l 1M17u,17x,17w 2M17u,17x,18l 1M17u,17y,18l 1M17u,18l,17w",
  "1M17u,18l,17x 1M17u,18l,17y 1M17w,18l,17x 2M17x,18l,18q 1M17x,18l,18p 1M183,17x,17w",
  "1M183,17w,17x 1M183,17w,18p 1M183,18l,17x 2M183,18l,17w 1M183,18l,18l 2M185,17x,17x",
  "2M185,18l,18l 1M184,17x,18l 2M184,17w,18q 1M184,18l,17y 2M184,18l,18l 2M186,17x,18p",
  "1M186,17y,18l 2M187,18l,17x 2M187,18l,18l 1M187,18l,18q 1M189,17w,18l 1M189,18l,18l",
  "2M189,18l,18p 1M18a,18l,18l 1M18a,18l,18q 1M18a,18l,18p 1M18h,17y,18l 2M18i,18l,17x",
  "1M18i,18l,18l 1M18k,17x,18l 1M18k,17x,18q 1M18k,17x,18p 1M18k,17w,17w 2M18k,17y,18l",
  "2M18k,18l,17x 2M18l,17x,17w 1M18l,17x,18l 1M18l,17x,18q 1M18l,17w,17x 1M18l,17w,18l",
  "1M18l,17y,17w 1M18l,17y,18l 1V 2M18l,17w,17y 1M18n,18l,17w 1M18n,18l,18l 1M18m,17x,18l",
  "1M18m,17x,18p 1M18m,17w,18l 2M18m,17w,18p 1M18m,18l,18q 1M18m,18l,18p 1M18q,18l,18l",
  "2M17s,17y,18q 1M17u,17w,18q 1M17u,17w,18p 1M17u,17y,18q 1M17u,17y,18p 1M17u,18l,18q",
  "1M17u,18l,18p 1M17w,18l,18q 1M17w,17x,18p 1M17w,18l,18p 1M183,17y,18p 1M185,17x,18q",
  "1M184,17x,18q 1M186,17x,18q 1M18k,17w,18q 1M18k,18l,18q 1M18q,17x,18q 1M18q,17w,18q",
  "1M18q,18l,18q 1M18l,18l,18q 1M18i,18l,18q 1M18m,17x,18q 1M18i,18l,17x 1M18k,17x,18l",
  "1M189,18l,18q 1M18j,18l,18q 1M18m,17w,17x 1M18l,17y,18q 1M18k,17w,18l 1M18j,18l,18l",
  "1M18k,17w,18l 1M18m,17w,17x 1M17w,17x,18q 1M17x,17w,18q 1M18l,17w,18q 1M18h,18l,18q",
  "1M17s,17x,18q 1M18j,18l,18l 1M189,17w,18l 1M185,18l,18l 1M183,17y,18q 1M18m,17w,18q 1V",
  "8X wM185,18k,1ci 1M18i,18k,1ci 1M17r,18k,18k,18n 1M17r,18j,17s,181 1M18l,17x,18l,17z",
  "1M185,18k,189,18l 1M181,183,18o,18k 1M189,18k,18q,18n 1M18o,183,18k,18l 1M185,18k,18p",
  "1M185,18k,18p,w,17r,18k,18k,18n,w,189,18k,18q,18n,w,18o,183,18k,18l",
  "1M17w,18k,w,17w,18k,17r,18k,18n 1M181,1cc,17r,18k 1V 3I gS18 1S9hd 1X 1S1m 2Sx 1S1r",
  "1S9hy 2X 7V gX 1S6c4 1S6c3 1M2n 2S14 2S3f 1S3h 1S9hw 2S9hs 2S9hm 2S9hk 2S9ho 4V 2S2j",
  "1S2l 1Mw,lh 4M2n 3S18 1S9hd 1X 2S1n 1S1m 1S1r 1Sx 1S6c4 1S14 2S3f 1S3h 1S9hw 2Sz 1S12",
  "1S16 2S19 1S1o 1S1q 1S1p 1X 1S2k 1S10 2S1s 1X 4Mw,18r 1M18g,18r 1Mw,18s 1V 1Mw,18t 1X",
  "1Mw,18u 1M18g,18u 1Mw,18v 1M18g,18v 1Mw,18w 1M18g,18w 1Mw,18x 1M18g,18x 1Mw,18y",
  "1M18g,18y 1S17l 2S17m 2S17n 2S17o 2S17p 2M17q 3M17r 2M17s 4M17t 2M17u 4M17v 4M17w 4M17x",
  "4M17y 4M17z 2M180 2M181 2M182 2M183 4M184 4M185 4M186 4M187 4M188 4M189 4M18a 4M18h",
  "4M18i 4M18j 4M18k 4M18l 4M18m 4M18n 4M18o 2M18p 2M18q 4M18k,17m 2M18k,17n 2M18k,17p",
  "2M18k,17r 2X 2I 1X 1Sx wS2p qS2j 10S879 2S1a 1S9ho 2S9hd 1S9ob 1S9o2 1S9lt 1S9lv 1S9lx",
  "1S9lz 1S9m1 1S9nn 1S9np 1S9nr 1S9mr 1S9oc 1S9lu 1S9lw 1S9ly 1S9m0 1S9m2 2S9m5 1S9m7",
  "1S9m9 1S9mb 1S9md 1S9mf 1S9mh 1S9mj 1S9ml 1S9mn 1S9mp 1S9ms 1S9mu 1S9mw 1S9my 6S9n6",
  "1S9n9 1S9nc 1S9nf 1S9ni 5S9no 1S9nq 1S9ns 6S9nz 1S9o3 1S9ll 2I 1S3cw 2S3hm 1S3cy 1S3ho",
  "2S3cz 3S3hs 6S3dm 1S3d2 3S3dt 1S3d5 aX 3S3fl 6X 2S3fr 6X 2S3fx 6X 2S3g3 3X 3S4i 2S4s",
  "1Mw,lg 1S4m 1S4l 1S6g9 1X 1S7b6 1S6mo 4S7fk 1S7gr 1X hV cX 1V qX 1V jX 1V 2X 1V fX 2V eX",
  "yV 3fX 5V 3X 4V 19X 3V 2gX 1V dX 3V 1X 1bV 1aX 3mV tX 3V 1dX fV sX 4V 10X 9V uX 5V 17X",
  "5V uX 1V 11X 4V eX 16S1fe0 14V 3aX 2V aX 6S1fiw 10X 4V 10X 4V 14X 8V 1gX bV 1S1fo7 bX",
  "1S1foj fX 1S1foz 7X 1S1fp7 2X 1V bX 1V fX 1V 7X 1V 2X 3V 1gX cV 8nX 9V mX aV 8X oV 1Sk0",
  "2S6e 1Sih 1Sgj 1X 1Sir 1Sxuu 1Sit 1Sis 1Sgm 2S5u9 1Sgo 1Sgu 1Six 1Sh0 1Sgy 1Sgw 1Sij",
  "1S87 1Sik 1Sh3 1Shw 1Siy 2Sh8 1S2mmc 1Sx3i 1Sha 1S2mmd 1Si6 1S2mme 1S6w 1Shi 2S35 1Shm",
  "1S2mmg 1Shp 2Shs 1Siw 1Siu 1Sxuv 1Siv 1Si0 1S8s1 1X 1Si7 1Sip 2Sig 1Scg 3S2mmi 1S2mn2 1X",
  "1xV 6X 2V 1X 1V 18X 1V 2X 3V 1X 2V nX 1V 20X 8V 9X 1cV jX 1V 2X 5V xX 3V rX 5V rX 12V",
  "1kX 4V kX 2V 1eX 1V 2X 5V 8X 1V 3X 1V tX 2V 3X 4V aX 7V 9X 7V 1sX wV 13X 4V cX 9V 1iX 3V",
  "tX 2V rX 5V qX 7V 4X cV 7X 28V 21X 1jS1h34 1fX dV 1fX 7V 1aX 8V aX 6V gS1h80 mX 3V tX 8V",
  "2X 5sV vX 1V 16X 1V 3X 2V 2X gV 6X 8V 9X xV 1aX 8V 16X mV qX 12V sX kV nX 9V 26X 4V 10X",
  "9V 1qX 1V 5X dV pX 7V aX 6V 1hX 1V iX 8V 13X 9V 2oX 1V kX bV iX 1V 1bX 1qV 7X 1V 1X 1V",
  "4X 1V fX 1V bX 6V 1nX 5V aX 6V 4X 1V 8X 2V 2X 2V mX 1V 7X 1V 2X 1V 5X 1V aX 2V 2X 2V 3X",
  "2V 1X 6V 1X 5V 7X 2V 7X 3V 5X bV aX 1V 1X 2V 1X 1V 12X 1V aX 1V 1X 2V 1X 1V 4X 1V aX 1V",
  "2X 8V 2X tV 2kX 1V 5X uV 20X 8V aX 4mV 1iX 2V 12X yV 1xX bV aX 6V dX jV 1mX 6V aX 6V kX",
  "sV rX 2V fX 4V nX 55V 1oX 2sS1jgg wV 1fX cV 8X 2V 1X 2V 8X 1V 2X 1V uX 1V 2X 2V cX 9V aX",
  "1yV 8X 2V 1aX 2V bX rV 20X 8V 2bX dV 21X 7V aX 2eV 8X 2gV yX eV aX 6V 9X 1V 19X 1V eX aV",
  "tX 3V wX 2V mX 1V eX 21V 7X 1V 2X 1V 18X 3V 1X 1V 2X 1V 9X 8V aX 6V 6X 1V 2X 1V 11X 1V",
  "2X 1V 6X 7V aX 6V 18X 4V aX 6uV pX 7V hX 1V 15X 3V tX 2dV 1X fV 1eX dV pnX 2uV 33X 1V 5X",
  "bV 5gX 218V 2rX dV tsX gV mX aV 32zX 5V g7X 5a1V 1mX 1c6V ftX 7V vX 1V aX 4V 29X 1V aX",
  "6V uX 2V 6X aV 1yX aV aX 1V 7X 1V lX 5V jX c0V 1mX 5iS20dc wV 1nX 5S20fv pX 2V pX 18V",
  "23X 4V 1lX 7V hX 1sV 5X bV 7X 9V 5p2X 15V wX 2pV 37X 6ppV 4X 1V 7X 1V 2X 1V 83X fV 1X tV",
  "3X 2V 1X eV 4X 8V b0X 1s4V 2zX 5V dX 3V 9X 7V aX 2V 4I 4X 318V 5yS2p qS1c aV 3X 3V c4X",
  "6V nX fV hX fV 1aX 2V nX 9V 38X 1oV 6uX aV 13X 2V 1hM2jx3,2jxh 1M2jx4,2jxh",
  "1M2jx4,2jxh,2jxq 1M2jx4,2jxh,2jxr 1M2jx4,2jxh,2jxs 1M2jx4,2jxh,2jxt 1M2jx4,2jxh,2jxu 1V",
  "eI 8V 1sM2jzt,2jxh 1M2jzu,2jxh 1M2jzt,2jxh,2jxq 1M2jzu,2jxh,2jxq 1M2jzt,2jxh,2jxr",
  "1M2jzu,2jxh,2jxr 1V 16X lV 1yX 3eV kX cV kX cV 2fX 9V pX 3rS2p qS2p qS2p qS2p 7X 1S2x",
  "iS2p qS2p qS2p 1X 1S2r 2X 2S2v 1X 2S2y 2X 2S32 4X 1S37 8S2p 4X 1S2u 1X 1S2w 7X 1S34 bS2p",
  "qS2p qS2p 2X 1S2s 4X 2S2y 8X 1S37 7X 1S2p qS2p 2X 1S2s 4X 1S2x 5X 1S33 1X 3S37 7X 1S2p",
  "qS2p qS2p qS2p qS2p qS2p qS2p qS2p qS2p qS2p qS2p qS2p qS2p qS8h 1Sfr 1X 2Sq9 hSqg 1Sqr",
  "7S6pz 1Sq9 hMqr 2Sqs 6S6pu 1Sqd 1Sqg 1Sqi 1Squ 1Sqp 1Sqo 1Sq9 hSqg 1Sqr 7S6pz 1Sq9 hMqr",
  "2Sqs 6S6pu 1Sqd 1Sqg 1Sqi 1Squ 1Sqp 1Sqo 1Sq9 hSqg 1Sqr 7S6pz 1Sq9 hMqr 2Sqs 6S6pu 1Sqd",
  "1Sqg 1Sqi 1Squ 1Sqp 1Sqo 1Sq9 hSqg 1Sqr 7S6pz 1Sq9 hMqr 2Sqs 6S6pu 1Sqd 1Sqg 1Sqi 1Squ",
  "1Sqp 1Sqo 1Sq9 hSqg 1Sqr 7S6pz 1Sq9 hMqr 2Sqs 6S6pu 1Sqd 1Sqg 1Sqi 1Squ 1Sqp 1Sqo 1Mrh",
  "2X 2S1c aS1c aS1c aS1c aS1c aV i4X fV 5X 1V fX uoV vX 6V 6X 5xV 7X 1V hX 2V 7X 1V 2X 1V",
  "5X 5Sts 9Su2 3Su6 bSuj 1Sul 2Sww9 1Syh 1Suu 1Suw 1Syx 1Sxb 1Sy7 1Sts 9Su2 2Su6 2Su9 1Sub",
  "6Sui 2Swh 1Suu 1Sut 1Sv3 1Sx7 1Swup 1Sxd 1X xV 1X 34V 19X 3V eX 2V aX 4V 2X 8wV vX hV",
  "1mX 5V 1X cwV 16X 5yV 17X 4V 1X 5cV vX 1V mX 8V 2X 68V 7X 1V 4X 1V 2X 1V fX 1V 5hX 2V gX",
  "15S2oma yV 16X 4V aX 4V 2X ltV 1wX 24V 1pX 5eS17r 2S17w 1S17z 1X 1S18o 1S182 1S17x 1S187",
  "1S18q 1S18j 4S183 1S189 1S18h 1S185 1S18i 1S181 1S184 1S17u 2S17y 1S180 1S186 1S188",
  "1S18a 1S19q 1S1bu 1S1b5 1S19r 1X 1S17s 1S17w 1X 1S18n 1X 2S17x 1X 1S18q 1S18j 4S183",
  "1S189 1S18h 1S185 1S18i 1X 1S184 1S17u 2S17y 1X 1S186 1X 1S18a 1X 6S17w 1X 4S17x 1X",
  "1S18q 1X 1S18k 1X 1S18m 1S183 1S189 1X 1S185 1S18i 1X 1S184 1X 2S17y 1X 1S186 1X 1S18a",
  "1X 1S1bu 1X 1S19r 1X 1S17s 1S17w 1X 1S18n 1X 2S17x 1S187 1S18q 1S18j 1X 1S18l 2S183",
  "1S189 1S18h 1S185 1S18i 1X 1S184 1S17u 2S17y 1X 1S186 1S188 1S18a 1S19q 1X 1S1b5 1X",
  "1S17r 2S17w 1S17z 1S18n 2S182 1S17x 1S187 1S18q 1X 1S18k 3S183 1S189 1S18h 1S185 1S18i",
  "1S181 1S184 1S17u 2S17y 1S180 1S186 1S188 1S18a 1X 5S17s 1S17w 1S17z 1X 1S18o 1S182",
  "1S17x 1S187 1S18q 1X 1S18k 3S183 1S189 1S18h 1S185 1S18i 1S181 1S184 1S17u 2S17y 1S180",
  "1S186 1S188 1S18a 1X 1gV 2X 7iV 18X 4V 2sX cV fX 2V fX 1V fX 1V 11X bM1c,18 1M1d,18",
  "1M1e,18 1M1f,18 1M1g,18 1M1h,18 1M1i,18 1M1j,18 1M1k,18 1M1l,18 1V 5M14,2p,15 1M14,2q,15",
  "1M14,2r,15 1M14,2s,15 1M14,2t,15 1M14,2u,15 1M14,2v,15 1M14,2w,15 1M14,2x,15 1M14,2y,15",
  "1M14,2z,15 1M14,30,15 1M14,31,15 1M14,32,15 1M14,33,15 1M14,34,15 1M14,35,15 1M14,36,15",
  "1M14,37,15 1M14,38,15 1M14,39,15 1M14,3a,15 1M14,3b,15 1M14,3c,15 1M14,3d,15 1M14,3e,15",
  "1M9hw,37,9hx 1S2r 1S36 1M2r,2s 1M3b,3e 1V 1S2p qM2w,3a 1M31,3a 1M37,2s 1M37,37",
  "1M34,34,3a 1M3b,2r 1V qM31,2r 1M31,2s 1M31,36 1V zM2s,2y 1V tX 1kV qM9kr,9jf 1M9mb,9mb",
  "1S9md 1X dSjez 1Si1j 1Sgjw 1S9mv 1Sfik 1Shlm 1Sr8j 1Shm1 1Sfj8 1Sk68 1Smch 1Sk2h 1Sg99",
  "1Sivg 1Sg3x 1Sk34 1Sg7x 1Soqq 1Sn4v 1Srs9 1Shkg 1Sgmx 1Slxw 1Sjh1 1Sjmd 1Sfeo 1Sfex",
  "1Ssi2 1Sijq 1Sffx 1Sgkz 1Sjk7 1Srxs 1Sjf7 1So01 1So6y 1Sglk 1Slts 1Skcp 1Skco 1Sn5f",
  "1Sgaa 1Sgxi 1Ssp9 1X 4M9hw,kdo,9hx 1M9hw,fex,9hx 1M9hw,fik,9hx 1M9hw,i2x,9hx",
  "1M9hw,m9l,9hx 1M9hw,jf7,9hx 1M9hw,nh3,9hx 1M9hw,gd9,9hx 1M9hw,k0n,9hx 1X 7Sivr 1Sgkv 1X",
  "eV 6X 4aV rdX 3V hX 3V dX 3V 62X 6V cX 4V 1X fV cX 4V 1kX 8V aX 6V 14X 8V uX 2V cX 4V 2X",
  "eV 9X 13V 9kX 8V eX 2V dX 3V bX 3V 1lX 1V 1X 4V gX 2V cX 4V aX 7V 43X 1V 2kS1c aV 1X slV",
  "wyoX wV 3dqX 2V 4geX 2V 5rlX fV haX 1wiSfgd 1Sfg8 1Sfgh 1S2tcy 1Sfog 1Sfqm 1Sfqz 1Sfsy",
  "1Sfwa 1Sfx5 1Sfzb 1Sfyn 1Sae6 1S2ud6 1Sg25 1Sg2c 1Sg2s 1Sg3b 1S2u58 1Saex 1Sg2v 1Sg3x",
  "1S2u6j 1Sg47 1Sg4k 1Sfkc 1Sg4s 1Sg51 1S3ly7 1Sg6t 1Sg77 1Safz 1Sg8r 1Sg92 1Sgaa 1Sgaf",
  "1Sahh 1Sgcn 1Sgcp 1Sgdg 1Sge2 1Sged 2Sgev 1Sgg9 1Sggh 1Sggq 1Sghf 1Sghp 1Mghr 3S2v58",
  "1Sm7k 1Sgju 1Sgkf 1S2vdv 1Sgkr 1Sgkx 1Sgli 1Sgpq 1Sgmw 1Sgnc 1Sgo8 1Sgpu 1Sgs6 1Sgsw",
  "1Sgur 1Sgv7 1Mgw4 2Sgwp 1Sgx7 1Sgxf 1Sgxu 1Sh7a 1Sgzq 1Sh7b 1Sh1t 1Sh2s 1Sg7b 1Shke",
  "1Shce 1Shdg 1She5 1Shaj 1Shf6 1Shf5 1Shik 1S2x9g 1Shki 1Shkn 1Shl2 1Shlm 1Shlu 1Shnm",
  "1S2xm0 1S2xnu 1Shrg 1Shsr 1Sht3 1Shqw 1Shuu 1Saum 1Sav0 1Shzc 1Mi0u 2S2y88 1Si4j 1Si54",
  "1Si5j 1Si5v 1S2yhk 1Si67 1Si6e 1Sitv 1Si76 1Sayp 1Si8w 1Si9a 1Sibk 1Sia5 1S2z1g 1Sif7",
  "1S2z1i 1Sige 1Sigb 1Sigs 1Sijl 2Sb3j 1Sikd 1Silk 1Sim5 1Sind 1Sb4y 1S2zr7 1Sb5o 1Sipc",
  "1Sipf 1Sipi 1Siq2 1S3pg2 1Siri 1M3035 2Spoh 1Misi 2Sb7r 1S335k 1S3cgq 1Siua 1Siuj 1Sb8j",
  "1Sivu 1Six9 1Sixj 1Siyh 1Sj29 1Sbay 1Sba4 1Sj2s 1S30t0 1Sj47 1Sj7s 1Sj7w 1Sj7y 1Sj7w",
  "1Sj96 1Sj9q 1Sjaq 1Sjac 1Sjan 1Sjby 1Sjci 1Sjcm 1Sjdc 1Sjdn 1Sjfh 1Sjht 1Sjis 1Sjm8",
  "1S31n0 1Sjlp 1Sjjw 1Sjmw 1Sjnn 1Sjqc 1S31td 1Sjs2 1Sjph 1Sjop 1Sbhq 1Sju1 1Sjum 1Sjvh",
  "1Sjuf 1Sbjg 1Sk0f 1Sk18 1S32mi 1Sk4j 1Skc8 1Sk7d 1Sbo9 1Sk9d 1Sbns 1Sbms 1Sg42 1Sg45",
  "1Skcg 1Sk9o 1Spf1 1Sdeh 1Skd3 1Skd7 1Skdd 1Skf2 1Sker 1S33cz 1Sbpl 1Skje 1Skg5 1Sklu",
  "1Skn9 1S33hp 1Skni 1Skkf 1Skr8 1Sbrx 1Sksi 1Skv7 1Skx6 1Sl2g 1S33xf 1Sl3v 1Sbvc 1Sl5t",
  "1S34br 1Sl78 1Sbwu 1Sl82 1Sl9b 1Sla2 2S34p9 1S2yvf 1S34sa 1Sle6 1S354s 1Slhb 1Slhp 1Slev",
  "1Sljq 1Slku 1Slmf 1Slkx 1Slm1 1Slmg 1Slmt 1S357i 1Slkk 1Slrj 1Slta 1Sc37 1Slvv 1Slvr",
  "1S35jl 1Slq1 1Sm0e 1S35ni 1S35ou 1Sm2u 1Sm61 1Sm5a 1Sm57 1Sc5y 1Sm6i 1Sm7x 1Sm7r 1Sm99",
  "1S2u5h 1Smdh 1S368z 1Smfw 1S36i3 1Smjs 1Smk5 1Smkw 1S36yw 1Smm8 1Smmt 1S3779 1S37dg",
  "1Smt6 1Smtn 1Scdo 1Smud 1Mce0 2Smyv 1Smzg 1Sn01 1Sn0l 1Sn2i 1Scgr 1Sn50 1S386u 1Sn5q",
  "1S389e 1Sn74 1S2zrz 1Snbk 1S38v5 1S38vs 1S38zo 1Scn0 1Scnc 1Snhw 1S394j 1S394i 1S395l",
  "1S396b 1Snj2 2Snj3 1Snka 1Scop 1Snm3 1Scp2 1Scra 1S39r1 1Snri 1Snt8 1Snv0 1Sctf 1S3a5i",
  "1Snyu 1S3a8q 1S3a9x 1So0f 1So2z 1Scvj 1So5c 1So5m 1So5r 1S3at8 1M3b1j 2Soa6 1Sd1e 1S3b8r",
  "1Sog6 1Sog9 1Sd2f 1S3beo 1Sonm 1Sd5s 1Soo8 1Soo3 1Soow 1S3c06 1Sorn 1Sd8h 1Souf 1Sow2",
  "1Soxx 1Sd9w 1S3ciw 1S3cjr 1Sdax 1S3cnt 1Sp6i 1S3cqm 1Sp79 1Spa2 1Spad 1S3d22 1S3d43",
  "1Spcw 1S3d7s 1Spdc 1S33a7 1Sded 1Spf6 1Sphf 1Sdfv 1Spj2 1Shx1 1S3dlz 1S3dmd 1S33bn",
  "1S33bw 1Spoh 1Spok 1Ssda 1Sdij 1Spsh 1Spsb 1Spst 1Sgc3 1Sptd 1Sptf 1Sptp 1Spuu 1S3ebg",
  "1Sput 1Spwd 1Spyb 1Sq0d 1Spwj 1Sq0t 1Sq1z 1Sq53 1Spxv 1Sq16 1Sq18 1Sq1o 1S3eie 1S3eqz",
  "1S3emt 1Sdnv 1Sq9d 1Sq9f 1Sqae 1S3g0a 1Sqck 1S3f3g 1Sdp9 1Sdpd 1S3f75 1S3ff6 1Sdpn 1Sqj4",
  "1Sqjg 1Sqjr 1Sqjt 1Sqll 1Sqko 1Sqoe 1Sqn6 1Sqrd 1Sqp4 1Sqqz 1Sqrq 1Sdsn 1Squ9 1Sqv5",
  "1Sdtl 1Sqxs 1Sqxv 1S3giv 1Sr13 1Sr1a 1Sdv9 1Sr22 1Saez 1S3gz2 1S3h46 1Sdz2 1Sdzb 1Srds",
  "1Srfx 1Srka 1Srpx 1S3hrc 1Srsb 1Srsx 1Srvf 1Srxz 1S3i9b 1S2upw 1Ss0b 1Srzw 1Ss1c 1S2uvy",
  "1Ss7o 1Ssag 1S3jki 1S3jl9 1Ssk4 1Ssmp 1Ssnl 1S3ju6 1Ssnv 1Ssvs 1St07 2Ssxo 1St89 1St91",
  "1S3ksa 1Stjf 1Sej9 1Stkn 1S3l2v 1Seli 1Sts3 1Siia 1Stur 1S3ltx 1S3lzu 1Sepa 1Sepi 1Su00",
  "1S3mdm 1Ser6 1S3mhi 1Mu17 2Su21 1S3mpi 1Su76 1Seur 1Su95 1Sucn 1Sude 1Suf2 1Sez2 1S3nsg",
  "1Sumq 1Suv4 1Sv0d 1Sf66 1Sf71 1Sv3b 1S3owe 1Sf7c 1S3oxx 1S3p5a 1S3p8x 1Svcr 1Sf9y 1Sveh",
  "1Svem 1Svet 1Svf3 1Svfa 1Svgb 1S3pxc 1X 15uV 3t7X 5V 6juX f62uI 6oX"]

end Domain

end EventFlow
